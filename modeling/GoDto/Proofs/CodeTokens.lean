import GoDto.Dto.Code
import GoDto.Proofs.LowerCase
import GoDto.Proofs.Respelling
import GoDto.Proofs.TokenSeam

/-!
The lexemes and the tokens of a generated text. Nothing that goes into it can run into what stands
beside it, so they are known from the context alone.
-/

namespace GoDto

theorem IsName.backtick_not_mem {text : String} (isName : IsName text) : '\x60' ∉ text.toList := by
  obtain ⟨c, rest, spelled, starts, parts⟩ := isName.word
  rw [spelled, List.mem_cons, not_or]
  refine ⟨?_, fun member => ?_⟩
  · intro same
    subst same
    exact absurd starts (by decide)
  · exact absurd (parts _ member) (by decide)

namespace Dto

open Lexeme (word gap mark raw)

/-- A field that is called by a name, whose type is read as it is spelled and whose tag is its name
in lower case -/
structure Field.Sound (field : Field) : Prop where
  name : IsName field.name
  type : ∃ type : GoType, type.Plain ∧ type.spelling = field.type
  tag : field.tag = Unicode.lowerCase field.name

structure Context.Sound (context : Context) : Prop where
  package : IsName context.package
  dto : IsName context.dto
  source : IsName context.source
  mapper : IsName context.mapper
  fields : ∀ field ∈ context.fields, field.Sound

namespace Field

def tagText (field : Field) : String := "json:\"" ++ field.tag ++ "\""

/-- The lexemes of the line on which a field is declared, with the line break before it -/
def declared (field : Field) : List Lexeme :=
  [gap "\n\t", word field.name, gap " "] ++ (Lexeme.all field.type.toList).1 ++
    [gap " ", raw field.tagText]

/-- The lexemes of the line on which a field is assigned, with the line break before it -/
def assigned (field : Field) : List Lexeme :=
  [gap "\n\t\t", word field.name, mark ":", gap " ", word "in", mark ".", word field.name, mark ","]

def declaredFaces (field : Field) : List (Token.Kind × String) :=
  (.identifier, field.name) :: (Lexeme.all field.type.toList).1.filterMap Lexeme.face? ++
    [(.rawString, "\x60" ++ field.tagText ++ "\x60"), lineFace]

def assignedFaces (field : Field) : List (Token.Kind × String) :=
  [(.identifier, field.name), (.operator, ":"), (.identifier, "in"), (.operator, "."),
    (.identifier, field.name), (.operator, ",")]

theorem Sound.declared_eq {field : Field} (sound : field.Sound) : ∃ type : GoType, type.Plain ∧
    type.spelling = field.type ∧ (Lexeme.all field.type.toList).1 = type.lexemes := by
  obtain ⟨type, plain, same⟩ := sound.type
  refine ⟨type, plain, same, ?_⟩
  rw [← same, plain.all_spelling]

theorem flatMap_declared {field : Field} (sound : field.Sound) :
    field.declared.flatMap Lexeme.text = '\n' :: field.declaration.toList := by
  obtain ⟨type, plain, same, lexemes⟩ := sound.declared_eq
  have spelled := plain.flatMap_lexemes
  rw [same] at spelled
  simp [declared, lexemes, spelled, declaration, tagText, gap, word, raw]

theorem flatMap_assigned (field : Field) :
    field.assigned.flatMap Lexeme.text = '\n' :: field.assignment.toList := by
  simp [assigned, assignment, gap, word, mark]

end Field

namespace Context

/-- The lexemes before the fields of the struct -/
def opening (context : Context) : List Lexeme :=
  [word "package", gap " ", word context.package, gap "\n\n", word "type", gap " ", word context.dto,
    gap " ", word "struct", gap " ", mark "\x7b"]

/-- The lexemes between the fields and their assignments -/
def middle (context : Context) : List Lexeme :=
  [gap "\n", mark "\x7d", gap "\n\n", word "func", gap " ", word context.mapper, mark "(", word "in",
    gap " ", word context.source, mark ")", gap " ", word context.dto, gap " ", mark "\x7b",
    gap "\n\t", word "return", gap " ", word context.dto, mark "\x7b"]

/-- The lexemes behind the assignments -/
def closing : List Lexeme := [gap "\n\t", mark "\x7d", gap "\n", mark "\x7d", gap "\n"]

def lexemes (context : Context) : List Lexeme :=
  context.opening ++ (context.fields.flatMap Field.declared ++
    (context.middle ++ (context.fields.flatMap Field.assigned ++ closing)))

theorem flatMap_lexemes {context : Context} (sound : context.Sound) :
    context.lexemes.flatMap Lexeme.text = context.code.toList := by
  have declared : (context.fields.flatMap Field.declared).flatMap Lexeme.text =
      context.fields.flatMap fun field => '\n' :: field.declaration.toList := by
    rw [List.flatMap_assoc]
    apply List.flatMap_congr
    exact fun field member => Field.flatMap_declared (sound.fields field member)
  have assigned : (context.fields.flatMap Field.assigned).flatMap Lexeme.text =
      context.fields.flatMap fun field => '\n' :: field.assignment.toList := by
    rw [List.flatMap_assoc]
    apply List.flatMap_congr
    exact fun field _ => field.flatMap_assigned
  rw [code, lines, List.append_assoc, List.append_assoc, List.append_assoc, List.cons_append,
    toList_intercalate_cons]
  simp [lexemes, declared, assigned, opening, middle, closing, List.flatMap_map, gap, word, mark]

section
variable {fields : List Field} {rest : List Lexeme}

/-- A blank is at the front, if there are any lexemes. -/
def StartsBlank (lexemes : List Lexeme) : Prop := ∀ next ∈ lexemes.head?, next.shape = .blank

theorem StartsBlank.parts_mark (blank : StartsBlank rest) (text : String) :
    ∀ next ∈ rest.head?, (mark text).parts next := by
  intro next first
  have shape := blank next first
  simp [Lexeme.ne_mark_of_shape, shape]

theorem startsBlank_flatMap {form : Field → List Lexeme}
    (starts : ∀ field rest, StartsBlank (form field ++ rest)) (later : StartsBlank rest) :
    StartsBlank (fields.flatMap form ++ rest) := by
  cases fields with
  | nil => exact later
  | cons field fields =>
    rw [List.flatMap_cons, List.append_assoc]
    exact starts field _

theorem joined_declared (sound : ∀ field ∈ fields, field.Sound) (later : Lexeme.Joined rest) :
    Lexeme.Joined (fields.flatMap Field.declared ++ rest) := by
  induction fields with
  | nil => exact later
  | cons field fields ih =>
    have others := ih fun other member => sound other (List.mem_cons_of_mem _ member)
    have own := sound field List.mem_cons_self
    obtain ⟨type, plain, -, lexemes⟩ := own.declared_eq
    have tag : '\x60' ∉ field.tagText.toList := by
      simpa [Field.tagText, own.tag] using Unicode.backtick_not_mem_lowerCase own.name.backtick_not_mem
    rw [List.flatMap_cons, List.append_assoc]
    generalize fields.flatMap Field.declared ++ rest = behind at others
    have ended : Lexeme.Joined (gap " " :: raw field.tagText :: behind) :=
      ⟨.gap (by decide) (by decide), by simp, .raw tag, by simp, others⟩
    have typed := plain.joined ended (by simp)
    have start : Lexeme.Joined (gap "\n\t" :: word field.name :: gap " " ::
        (type.lexemes ++ gap " " :: raw field.tagText :: behind)) :=
      ⟨.gap (by decide) (by decide), by simp, own.name.clean, by simp,
        .gap (by decide) (by decide), plain.parts_gap " ", typed⟩
    simpa [Field.declared, lexemes] using start

/-- The words, blanks and marks that are the same in every generated text -/
theorem clean_fixed : (∀ text ∈ ["package", "type", "struct", "func", "in", "return"], (word text).Clean) ∧
    (∀ text ∈ [" ", "\n", "\n\n", "\n\t", "\n\t\t"], (gap text).Clean) ∧
    ∀ text ∈ ["(", ")", "\x7b", "\x7d", ",", ":", "."], (mark text).Clean := by
  have words : ∀ text ∈ ["package", "type", "struct", "func", "in", "return"],
      Lexeme.IsWord text.toList := by decide
  have gaps : ∀ text ∈ [" ", "\n", "\n\n", "\n\t", "\n\t\t"],
      text.toList ≠ [] ∧ text.toList.all Unicode.isBlank := by decide
  have marks : ∀ text ∈ ["(", ")", "\x7b", "\x7d", ",", ":", "."], text ∈ Lexeme.marks := by decide
  exact ⟨fun text listed => .word (words text listed),
    fun text listed => .gap (gaps text listed).1 (gaps text listed).2,
    fun text listed => .mark (marks text listed)⟩

theorem joined_assigned (sound : ∀ field ∈ fields, field.Sound) (later : Lexeme.Joined rest)
    (blank : StartsBlank rest) : Lexeme.Joined (fields.flatMap Field.assigned ++ rest) := by
  obtain ⟨words, gaps, marks⟩ := clean_fixed
  simp only [List.forall_mem_cons] at words gaps marks
  induction fields with
  | nil => exact later
  | cons field fields ih =>
    have others := ih fun other member => sound other (List.mem_cons_of_mem _ member)
    have blanks : StartsBlank (fields.flatMap Field.assigned ++ rest) :=
      startsBlank_flatMap (fun _ _ => by rintro next ⟨⟩; rfl) blank
    rw [List.flatMap_cons, List.append_assoc]
    generalize fields.flatMap Field.assigned ++ rest = behind at others blanks
    have clean := (sound field List.mem_cons_self).name.clean
    simpa [Field.assigned, Lexeme.Joined, words, gaps, marks, clean, others] using
      blanks.parts_mark ","

theorem joined_lexemes {context : Context} (sound : context.Sound) :
    Lexeme.Joined context.lexemes := by
  obtain ⟨words, gaps, marks⟩ := clean_fixed
  simp only [List.forall_mem_cons] at words gaps marks
  have closed : Lexeme.Joined closing := by
    simp [closing, Lexeme.Joined, gaps, marks]
  have assigned := joined_assigned sound.fields closed (by rintro next ⟨⟩; rfl)
  have assignedBlank : StartsBlank (context.fields.flatMap Field.assigned ++ closing) :=
    startsBlank_flatMap (fun _ _ => by rintro next ⟨⟩; rfl) (by rintro next ⟨⟩; rfl)
  have middle : Lexeme.Joined (context.middle ++ (context.fields.flatMap Field.assigned ++ closing)) := by
    generalize context.fields.flatMap Field.assigned ++ closing = behind at assigned assignedBlank
    simpa [Context.middle, Lexeme.Joined, words, gaps, marks, sound.mapper.clean, sound.source.clean,
      sound.dto.clean, assigned] using assignedBlank.parts_mark "\x7b"
  have declared := joined_declared sound.fields middle
  have declaredBlank : StartsBlank (context.fields.flatMap Field.declared ++
      (context.middle ++ (context.fields.flatMap Field.assigned ++ closing))) :=
    startsBlank_flatMap (fun _ _ => by rintro next ⟨⟩; rfl) (by rintro next ⟨⟩; rfl)
  rw [lexemes]
  generalize context.fields.flatMap Field.declared ++ _ = behind at declared declaredBlank
  simpa [opening, Lexeme.Joined, words, gaps, marks, sound.package.clean, sound.dto.clean, declared]
    using declaredBlank.parts_mark "\x7b"

/-- A generated text falls into these lexemes. -/
theorem all_code {context : Context} (sound : context.Sound) :
    Lexeme.all context.code.toList = (context.lexemes, []) := by
  rw [← flatMap_lexemes sound, Lexeme.all_of_joined (joined_lexemes sound)]

end

def openingFaces (context : Context) : List (Token.Kind × String) :=
  [(.keyword, "package"), (.identifier, context.package), lineFace, (.keyword, "type"),
    (.identifier, context.dto), (.keyword, "struct"), (.operator, Token.leftBrace)]

/-- The function up to the brace before its assignments -/
def functionFaces (context : Context) : List (Token.Kind × String) :=
  [(.keyword, "func"), (.identifier, context.mapper), (.operator, "("), (.identifier, "in"),
    (.identifier, context.source), (.operator, ")"), (.identifier, context.dto),
    (.operator, Token.leftBrace), (.keyword, "return"), (.identifier, context.dto),
    (.operator, Token.leftBrace)]

def middleFaces (context : Context) : List (Token.Kind × String) :=
  (.operator, Token.rightBrace) :: lineFace :: context.functionFaces

/-- The function from the brace behind its assignments on -/
def endingFaces : List (Token.Kind × String) :=
  [(.operator, Token.rightBrace), lineFace, (.operator, Token.rightBrace)]

/-- The tokens of a generated text -/
def faces (context : Context) : List (Token.Kind × String) :=
  context.openingFaces ++ (context.fields.flatMap Field.declaredFaces ++
    (context.middleFaces ++ (context.fields.flatMap Field.assignedFaces ++ (endingFaces ++ [lineFace]))))

section
variable {fields : List Field} {rest : List Lexeme}

/-- The line break in front of a field ends the line before it. -/
theorem faces_declared (sound : ∀ field ∈ fields, field.Sound) (ends : Bool) :
    Lexeme.faces ends (fields.flatMap Field.declared ++ gap "\n" :: rest) =
      (if ends then [lineFace] else []) ++
        (fields.flatMap Field.declaredFaces ++ Lexeme.faces false rest) := by
  induction fields generalizing ends with
  | nil => exact Lexeme.faces_line (by decide)
  | cons field fields ih =>
    have others := ih (fun other member => sound other (List.mem_cons_of_mem _ member)) true
    have own := sound field List.mem_cons_self
    obtain ⟨type, plain, -, lexemes⟩ := own.declared_eq
    have spelled := plain.filterMap_face?
    simp (disch := decide) only [List.flatMap_cons, Field.declared, Field.declaredFaces,
      lexemes, spelled, List.cons_append, List.nil_append, List.append_assoc, Lexeme.faces_space,
      Lexeme.faces_raw, Lexeme.faces_line, Lexeme.faces_word own.name.plain, plain.faces_append, others,
      if_true]

theorem faces_assigned (sound : ∀ field ∈ fields, field.Sound) :
    Lexeme.faces false (fields.flatMap Field.assigned ++ rest) =
      fields.flatMap Field.assignedFaces ++ Lexeme.faces false rest := by
  induction fields with
  | nil => rfl
  | cons field fields ih =>
    have others := ih fun other member => sound other (List.mem_cons_of_mem _ member)
    have name := (sound field List.mem_cons_self).name.plain
    simp (disch := decide) only [List.flatMap_cons, Field.assigned, Field.assignedFaces,
      List.cons_append, List.nil_append, Lexeme.faces_space, Lexeme.faces_line, Lexeme.faces_word name,
      Lexeme.faces_word (show "in" ∉ Token.keywords by decide), Lexeme.faces_mark, others,
      Bool.false_eq_true, if_false]

theorem faces_lexemes {context : Context} (sound : context.Sound) :
    Lexeme.faces false context.lexemes = context.faces := by
  have declared (rest : List Lexeme) := @faces_declared context.fields rest sound.fields false
  have none : Lexeme.faces false [] = [] := rfl
  simp (disch := decide) only [lexemes, faces, opening, openingFaces, middle, middleFaces,
    functionFaces, closing, endingFaces, List.cons_append, List.nil_append, Lexeme.faces_space, Lexeme.faces_line,
    Lexeme.faces_keyword, Lexeme.faces_return, Lexeme.faces_word sound.package.plain,
    Lexeme.faces_word sound.dto.plain, Lexeme.faces_word sound.mapper.plain,
    Lexeme.faces_word sound.source.plain, Lexeme.faces_word (show "in" ∉ Token.keywords by decide),
    Lexeme.faces_mark, Lexeme.faces_closing, declared, faces_assigned sound.fields, none,
    Token.leftBrace, Token.rightBrace, if_true, Bool.false_eq_true, if_false]

end

/-- A generated text falls into these tokens. -/
theorem ofText_code {context : Context} (sound : context.Sound) : ∃ tokens,
    Tokens.ofText context.code = .ok tokens ∧ tokens.body.map Token.face = context.faces := by
  refine ⟨⟨Lexeme.layOut false .start context.lexemes,
    .fileEnd (Position.start.after context.code.toList), rfl⟩, ?_, ?_⟩
  · rw [Tokens.ofText_eq, all_code sound]
    rfl
  · exact (Lexeme.map_face_layOut _ _ _).trans (faces_lexemes sound)

end Context

end Dto

end GoDto
