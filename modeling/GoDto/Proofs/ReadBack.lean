import GoDto.Proofs.Acceptance
import GoDto.Proofs.CodeTokens
import GoDto.Proofs.Continuation
import GoDto.Proofs.Respacing

/-!
Types written out as the type of a field, and read back. What is read is spelled as the type was,
and it is the type itself where no warning is given for it. So no two types without a warning are
spelled alike.
-/

namespace GoDto

open Lexeme (word gap mark)

namespace GoType

/-- The types inside a type, and the type itself -/
inductive Part (part : GoType) : GoType → Prop where
  | whole : Part part part
  | base {base : GoType} {text : String} : Part part base → Part part (.qualified base text)
  | pointer {element : GoType} : Part part element → Part part (.pointer element)
  | sequence {element : GoType} : Part part element → Part part (.sequence element)
  | field {fields : List (FieldDecl GoType)} {field : FieldDecl GoType} : field ∈ fields →
      Part part field.type → Part part (.struct fields)

theorem Part.named {part type : GoType} (inside : Part part type) (named : type.Named) : part.Named := by
  induction inside with
  | whole => exact named
  | base _ ih =>
    cases named with
    | qualified base => exact ih (.name base)
  | pointer _ ih =>
    cases named with
    | pointer element => exact ih element
  | sequence _ ih =>
    cases named with
    | sequence element => exact ih element
  | field member _ ih =>
    cases named with
    | struct _ types => exact ih (types _ member)

/-- A type is respelled as itself exactly if no placeholder stands in its spelling. -/
theorem Named.respelled_eq_iff {type : GoType} (named : type.Named) :
    type.respelled = type ↔ type.isUnsupported = false := by
  induction named with
  | name => simp [respelled, isUnsupported]
  | qualified => simp [respelled, isUnsupported]
  | pointer _ ih => simpa [respelled, isUnsupported] using ih
  | sequence _ ih => simpa [respelled, isUnsupported] using ih
  | struct => simp [respelled, isUnsupported]
  | outline => simp [respelled, isUnsupported]

/-- A source text with a struct of a single field, which has the type -/
def sample (type : GoType) : String :=
  "package p\ntype X struct \x7b\n\tF " ++ type.spelling ++ "\n\x7d\n"

theorem sample_congr {first second : GoType} (same : first.spelling = second.spelling) :
    first.sample = second.sample := by
  unfold sample
  rw [same]

/-- The lexemes of a sample before the type of its field -/
def sampleOpening : List Lexeme :=
  [word "package", gap " ", word "p", gap "\n", word "type", gap " ", word "X", gap " ", word "struct",
    gap " ", mark "\x7b", gap "\n\t", word "F", gap " "]

/-- The lexemes of a sample behind the type of its field -/
def sampleEnding : List Lexeme := [gap "\n", mark "\x7d", gap "\n"]

def sampleOpeningFaces : List (Token.Kind × String) :=
  [(.keyword, "package"), (.identifier, "p"), lineFace, (.keyword, "type"), (.identifier, "X"),
    (.keyword, "struct"), (.operator, Token.leftBrace), (.identifier, "F")]

def sampleEndingFaces : List (Token.Kind × String) := [lineFace, (.operator, Token.rightBrace), lineFace]

theorem isName_sample : IsName "p" ∧ IsName "X" ∧ IsName "F" := by decide

namespace Plain

variable {type : GoType}

theorem flatMap_sample (plain : type.Plain) :
    (sampleOpening ++ (type.lexemes ++ sampleEnding)).flatMap Lexeme.text = type.sample.toList := by
  have opening : sampleOpening.flatMap Lexeme.text =
      "package p\ntype X struct \x7b\n\tF ".toList := by decide
  have ending : sampleEnding.flatMap Lexeme.text = "\n\x7d\n".toList := by decide
  unfold sample
  rw [List.flatMap_append, List.flatMap_append, opening, ending, plain.flatMap_lexemes,
    String.toList_append, String.toList_append, List.append_assoc]

theorem joined_sample (plain : type.Plain) :
    Lexeme.Joined (sampleOpening ++ (type.lexemes ++ sampleEnding)) := by
  obtain ⟨words, gaps, marks⟩ := Dto.Context.clean_fixed
  simp only [List.forall_mem_cons] at words gaps marks
  obtain ⟨package, struct, field⟩ := isName_sample
  have ending : Lexeme.Joined sampleEnding := by
    simp [sampleEnding, Lexeme.Joined, gaps, marks]
  have typed := plain.joined ending (by rintro next ⟨⟩; rfl)
  have apart := @parts_gap type sampleEnding plain " "
  generalize type.lexemes ++ sampleEnding = behind at typed apart
  simpa [sampleOpening, Lexeme.Joined, words, gaps, marks, package.clean, struct.clean, field.clean, typed]
    using apart

theorem faces_sample (plain : type.Plain) :
    Lexeme.faces false (sampleOpening ++ (type.lexemes ++ sampleEnding)) =
      sampleOpeningFaces ++ (type.faces ++ sampleEndingFaces) := by
  obtain ⟨package, struct, field⟩ := isName_sample
  have none : Lexeme.faces false [] = [] := rfl
  simp (disch := decide) only [sampleOpening, sampleEnding, sampleOpeningFaces, sampleEndingFaces,
    List.cons_append, List.nil_append, Lexeme.faces_space, Lexeme.faces_line, Lexeme.faces_keyword,
    Lexeme.faces_word package.plain, Lexeme.faces_word struct.plain, Lexeme.faces_word field.plain,
    Lexeme.faces_mark, Lexeme.faces_closing, plain.faces_append, none, Token.leftBrace,
    Token.rightBrace, if_true, Bool.false_eq_true, if_false]

/-- Tokens with the faces of a sample derive a file with the struct in it. -/
theorem derives_sample (plain : type.Plain) {tokens : List Token} {final : Token}
    (ends : final.kind = .endOfFile)
    (same : tokens.map Token.face = sampleOpeningFaces ++ (type.faces ++ sampleEndingFaces)) :
    ∃ place own, Grammar.File (tokens ++ [final])
      ⟨"p", [⟨"X", place, false, .struct [⟨["F"], own, type, none⟩]⟩]⟩ := by
  obtain ⟨opening, rest, rfl, openingSame, same⟩ := List.map_eq_append_iff.1 same
  obtain ⟨typeTokens, ending, rfl, typeSame, endingSame⟩ := List.map_eq_append_iff.1 same
  simp only [sampleOpeningFaces, lineFace, List.map_eq_cons_iff, List.map_eq_nil_iff, Token.face_eq_iff]
    at openingSame
  simp only [sampleEndingFaces, lineFace, List.map_eq_cons_iff, List.map_eq_nil_iff, Token.face_eq_iff]
    at endingSame
  obtain ⟨package, _, rfl, isPackage, name, _, rfl, packageName, packageLine, _, rfl, packageEnd, keyword, _,
    rfl, isType, struct, _, rfl, structName, head, _, rfl, isStruct, opener, _, rfl, opens, first, _, rfl,
    fieldName, rfl⟩ := openingSame
  obtain ⟨fieldLine, _, rfl, fieldEnd, closer, _, rfl, closes, last, _, rfl, lastEnd, rfl⟩ := endingSame
  have blank : Grammar.Semicolons [] := Grammar.semicolons_nil
  have field : Grammar.Field Grammar.TypeOf (first :: typeTokens ++ [])
      ⟨[first.text], first.position, type, none⟩ :=
    .intro (.named (.last fieldName.1) (plain.typeOf typeSame)) .none
  have items := Grammar.Items.more blank field fieldEnd.1 (.none blank)
  have structType := Grammar.TypeOf.intro (.struct isStruct opens items closes)
  have spec : Grammar.Spec (struct :: ([] ++ ([] ++ (head :: opener ::
      ([] ++ (first :: typeTokens ++ []) ++ [fieldLine] ++ [closer])))))
      ⟨struct.text, struct.position, false, .struct [⟨[first.text], first.position, type, none⟩]⟩ := by
    refine .intro structName.1 (.none ?_) .absent structType
    rintro ⟨bracket, _, _, _, same, isBracket, -⟩
    obtain ⟨rfl, -⟩ := List.cons.inj same
    exact absurd (isStruct.1.symm.trans isBracket.1) (by decide)
  have file := Grammar.File.intro blank isPackage packageName.1 (.semicolon packageEnd.1)
    (.more blank (.type isType spec) (.semicolon lastEnd.1) (.none blank ends))
  rw [packageName.2, structName.2, fieldName.2] at file
  exact ⟨struct.position, first.position, by simpa using file⟩

theorem ofText_sample (plain : type.Plain) : ∃ place own,
    SourceFile.ofText type.sample =
      .ok ⟨"p", [⟨"X", place, false, .struct [⟨["F"], own, type, none⟩]⟩]⟩ := by
  let lexemes := sampleOpening ++ (type.lexemes ++ sampleEnding)
  let tokens : Tokens := ⟨Lexeme.layOut false .start lexemes,
    .fileEnd (Position.start.after type.sample.toList), rfl⟩
  have lexed : Tokens.ofText type.sample = .ok tokens := by
    refine Tokens.ofText_eq_ok_iff.2 ⟨lexemes, ?_, rfl⟩
    rw [← plain.flatMap_sample, Lexeme.all_of_joined plain.joined_sample]
  have faces : tokens.body.map Token.face = sampleOpeningFaces ++ (type.faces ++ sampleEndingFaces) :=
    (Lexeme.map_face_layOut _ _ _).trans plain.faces_sample
  obtain ⟨place, own, derives⟩ := plain.derives_sample tokens.final_ends faces
  refine ⟨place, own, ?_⟩
  rw [SourceFile.ofText_of_tokens lexed,
    SourceFile.ofTokens_of_grammar (Tokens.proper_of_ofText lexed) derives]
  rfl

end Plain

/-- The sample of any type calls for the type that it is respelled as. -/
theorem Named.ofText_sample {type : GoType} (named : type.Named) : ∃ place own,
    SourceFile.ofText type.sample =
      .ok ⟨"p", [⟨"X", place, false, .struct [⟨["F"], own, type.respelled, none⟩]⟩]⟩ := by
  have read := named.plain_respelled.ofText_sample
  rwa [sample_congr type.spelling_respelled] at read

/-- Types that are respelled as themselves are told apart by their spelling. -/
theorem Named.eq_of_spelling {first second : GoType} (firstNamed : first.Named) (secondNamed : second.Named)
    (firstKept : first.isUnsupported = false) (secondKept : second.isUnsupported = false)
    (same : first.spelling = second.spelling) : first = second := by
  obtain ⟨place, own, read⟩ := firstNamed.ofText_sample
  obtain ⟨place', own', readAgain⟩ := secondNamed.ofText_sample
  rw [firstNamed.respelled_eq_iff.2 firstKept, sample_congr same] at read
  rw [secondNamed.respelled_eq_iff.2 secondKept, read] at readAgain
  cases readAgain
  rfl

end GoType

/-- The type stands somewhere in a declaration of the file, at any depth. -/
def SourceFile.Mentions (file : SourceFile) (type : GoType) : Prop :=
  ∃ decl ∈ file.decls, type.Part decl.type

theorem SourceFile.named_of_mentions {text : String} {file : SourceFile} {type : GoType}
    (read : ofText text = .ok file) (mentioned : file.Mentions type) : type.Named := by
  obtain ⟨tokens, lexed, parsed⟩ := exists_tokens_of_ofText read
  obtain ⟨decl, member, inside⟩ := mentioned
  have named := named_of_ofTokens lexed parsed
  exact inside.named (named.decls decl member).type

/-- A type of a file is read back from its spelling exactly if it is supported, and what is read is
spelled the same in any case. No other supported type of a file has its spelling. -/
theorem SourceFile.ofText_sample_of_mentions {text : String} {file : SourceFile} {type : GoType}
    (read : ofText text = .ok file) (mentioned : file.Mentions type) :
    (∃ place own again,
      ofText type.sample =
        .ok ⟨"p", [⟨"X", place, false, .struct [⟨["F"], own, again, none⟩]⟩]⟩ ∧
      again.spelling = type.spelling ∧ (again = type ↔ type.isUnsupported = false)) ∧
    ∀ otherText otherFile other, ofText otherText = .ok otherFile → otherFile.Mentions other →
      type.isUnsupported = false → other.isUnsupported = false → other.spelling = type.spelling →
        other = type := by
  have named := named_of_mentions read mentioned
  constructor
  · obtain ⟨place, own, sampled⟩ := named.ofText_sample
    exact ⟨place, own, type.respelled, sampled, type.spelling_respelled, named.respelled_eq_iff⟩
  · intro otherText otherFile other otherRead otherMentioned kept otherKept same
    exact (named_of_mentions otherRead otherMentioned).eq_of_spelling named otherKept kept same

/-- A sequence of maps, inside a struct, is read back as another type. -/
theorem SourceFile.ofText_sample_of_mentions_maps :
    (GoType.sequence (.outline .map)).isUnsupported ∧ ∃ place own again,
      ofText (GoType.sequence (.outline .map)).sample =
        .ok ⟨"p", [⟨"X", place, false, .struct [⟨["F"], own, again, none⟩]⟩]⟩ ∧
      again.spelling = "[]*ast.MapType" ∧ again ≠ .sequence (.outline .map) := by
  let inner : GoType := .struct [⟨["B"], ⟨2, 28⟩, .sequence (.outline .map), none⟩]
  let file : SourceFile := ⟨"q", [⟨"T", ⟨2, 6⟩, false, .struct [⟨["A"], ⟨2, 17⟩, inner, none⟩]⟩]⟩
  have read : ofText "package q\ntype T struct \x7b A struct \x7b B []map[K]V \x7d \x7d" = .ok file := by
    decide +kernel
  have mentioned : file.Mentions (.sequence (.outline .map)) :=
    ⟨_, List.mem_singleton_self _, .field (List.mem_singleton_self _)
      (.field (List.mem_singleton_self _) .whole)⟩
  obtain ⟨⟨place, own, again, sampled, spelled, kept⟩, -⟩ := ofText_sample_of_mentions read mentioned
  exact ⟨rfl, place, own, again, sampled, spelled, fun same => Bool.noConfusion (kept.1 same)⟩

end GoDto
