import GoDto.Dto.Code
import GoDto.Proofs.Joining

/-!
The words of a generated text. Where nothing that goes into it holds a space or a line break, the text
falls into lines at its line breaks and each line into words at its spaces, and the words tell what went
into them. So no two contexts of that kind have the same code.
-/

namespace GoDto

/-- Whether a text holds neither a space nor a line break -/
def IsUnbroken (text : String) : Prop := ' ' ∉ text.toList ∧ '\n' ∉ text.toList

instance (text : String) : Decidable (IsUnbroken text) :=
  inferInstanceAs (Decidable (' ' ∉ text.toList ∧ '\n' ∉ text.toList))

theorem IsUnbroken.append {first second : String} (front : IsUnbroken first) (back : IsUnbroken second) :
    IsUnbroken (first ++ second) := by
  unfold IsUnbroken
  rw [String.toList_append, List.mem_append, List.mem_append, not_or, not_or]
  exact ⟨⟨front.1, back.1⟩, front.2, back.2⟩

/-- A text cut into lines, and each line into words -/
def linesOfWords (text : String) : List (List (List Char)) :=
  (text.toList.splitOn '\n').map (List.splitOn ' ')

theorem splitOn_line {words : List String} (nonempty : words ≠ []) (unbroken : ∀ word ∈ words, IsUnbroken word) :
    List.splitOn ' ' (String.intercalate " " words).toList = words.map String.toList := by
  rw [String.toList_intercalate]
  apply List.splitOn_intercalate
  · intro word member
    obtain ⟨text, listed, rfl⟩ := List.mem_map.1 member
    exact (unbroken text listed).1
  · simpa using nonempty

theorem line_not_mem {words : List String} (unbroken : ∀ word ∈ words, IsUnbroken word) :
    '\n' ∉ (String.intercalate " " words).toList := by
  cases words with
  | nil => simp
  | cons word words =>
    obtain ⟨own, others⟩ := List.forall_mem_cons.1 unbroken
    rw [toList_intercalate_cons, List.mem_append, List.mem_flatMap]
    rintro (inside | ⟨other, listed, inside⟩)
    · exact own.2 inside
    · rw [List.mem_append] at inside
      exact inside.elim (by decide) (others other listed).2

theorem linesOfWords_intercalate {lines : List (List String)} (nonempty : lines ≠ [])
    (words : ∀ line ∈ lines, line ≠ []) (unbroken : ∀ line ∈ lines, ∀ word ∈ line, IsUnbroken word) :
    linesOfWords (String.intercalate "\n" (lines.map (String.intercalate " "))) =
      lines.map (List.map String.toList) := by
  have cut : (String.intercalate "\n" (lines.map (String.intercalate " "))).toList.splitOn '\n' =
      lines.map fun line => (String.intercalate " " line).toList := by
    rw [String.toList_intercalate, List.map_map]
    apply List.splitOn_intercalate
    · intro line member
      obtain ⟨words, listed, rfl⟩ := List.mem_map.1 member
      exact line_not_mem (unbroken words listed)
    · simpa using nonempty
  rw [linesOfWords, cut, List.map_map]
  apply List.map_congr_left
  intro line listed
  exact splitOn_line (words line listed) (unbroken line listed)

namespace Dto

/-- Whether nothing in a field holds a space or a line break -/
structure Field.Unbroken (field : Field) : Prop where
  name : IsUnbroken field.name
  type : IsUnbroken field.type
  tag : IsUnbroken field.tag

structure Context.Unbroken (context : Context) : Prop where
  package : IsUnbroken context.package
  dto : IsUnbroken context.dto
  source : IsUnbroken context.source
  mapper : IsUnbroken context.mapper
  fields : ∀ field ∈ context.fields, field.Unbroken

namespace Field

def declarationWords (field : Field) : List String :=
  ["\t" ++ field.name, field.type, "\x60json:\"" ++ field.tag ++ "\"\x60"]

def assignmentWords (field : Field) : List String :=
  ["\t\t" ++ field.name ++ ":", "in." ++ field.name ++ ","]

theorem declaration_eq (field : Field) :
    field.declaration = String.intercalate " " field.declarationWords := by
  rw [← String.toList_inj]
  simp [declaration, declarationWords, String.intercalate_cons_cons]

theorem assignment_eq (field : Field) :
    field.assignment = String.intercalate " " field.assignmentWords := by
  rw [← String.toList_inj]
  simp [assignment, assignmentWords, String.intercalate_cons_cons]

theorem Unbroken.declarationWords {field : Field} (unbroken : field.Unbroken) :
    ∀ word ∈ field.declarationWords, IsUnbroken word := by
  have tab : IsUnbroken "\t" := by decide
  have opening : IsUnbroken "\x60json:\"" := by decide
  have tag := (opening.append unbroken.tag).append (by decide : IsUnbroken "\"\x60")
  simp [Field.declarationWords, tab.append unbroken.name, unbroken.type, tag]

theorem Unbroken.assignmentWords {field : Field} (unbroken : field.Unbroken) :
    ∀ word ∈ field.assignmentWords, IsUnbroken word := by
  have tabs : IsUnbroken "\t\t" := by decide
  have origin : IsUnbroken "in." := by decide
  have target := (tabs.append unbroken.name).append (by decide : IsUnbroken ":")
  have value := (origin.append unbroken.name).append (by decide : IsUnbroken ",")
  simp [Field.assignmentWords, target, value]

theorem declarationWords_injective : Function.Injective declarationWords := by
  intro first second same
  simp only [declarationWords, List.cons.injEq, String.append_left_inj, String.append_right_inj] at same
  obtain ⟨name, type, tag, -⟩ := same
  cases first
  cases second
  simp_all

end Field

namespace Context

def openingWords (context : Context) : List (List String) :=
  [["package", context.package], [""], ["type", context.dto, "struct", "\x7b"]]

def middleWords (context : Context) : List (List String) :=
  [["\x7d"], [""], ["func", context.mapper ++ "(in", context.source ++ ")", context.dto, "\x7b"],
    ["\treturn", context.dto ++ "\x7b"]]

/-- The lines of the code as lists of words -/
def words (context : Context) : List (List String) :=
  context.openingWords ++ (context.fields.map Field.declarationWords ++ (context.middleWords ++
    (context.fields.map Field.assignmentWords ++ [["\t\x7d"], ["\x7d"], [""]])))

theorem lines_eq (context : Context) : context.lines = context.words.map (String.intercalate " ") := by
  have declarations : context.fields.map Field.declaration =
      context.fields.map (String.intercalate " " ∘ Field.declarationWords) :=
    List.map_congr_left fun field _ => field.declaration_eq
  have assignments : context.fields.map Field.assignment =
      context.fields.map (String.intercalate " " ∘ Field.assignmentWords) :=
    List.map_congr_left fun field _ => field.assignment_eq
  have opening : ["package " ++ context.package, "", "type " ++ context.dto ++ " struct \x7b"] =
      context.openingWords.map (String.intercalate " ") := by
    simp [Context.openingWords, ← String.toList_inj, String.intercalate_cons_cons]
  have middle : ["\x7d", "", "func " ++ context.mapper ++ "(in " ++ context.source ++ ") " ++ context.dto ++ " \x7b",
      "\treturn " ++ context.dto ++ "\x7b"] = context.middleWords.map (String.intercalate " ") := by
    simp [Context.middleWords, ← String.toList_inj, String.intercalate_cons_cons]
  simp only [lines, words, declarations, assignments, opening, middle, List.map_append, List.map_map,
    List.append_assoc]
  rfl

theorem words_ne_nil (context : Context) : ∀ line ∈ context.words, line ≠ [] := by
  simp only [words, openingWords, middleWords, List.forall_mem_append, List.forall_mem_map, List.forall_mem_cons]
  simp [Field.declarationWords, Field.assignmentWords]

theorem Unbroken.words {context : Context} (unbroken : context.Unbroken) :
    ∀ line ∈ context.words, ∀ word ∈ line, IsUnbroken word := by
  have head : IsUnbroken (context.mapper ++ "(in") := unbroken.mapper.append (by decide)
  have parameter : IsUnbroken (context.source ++ ")") := unbroken.source.append (by decide)
  have literal : IsUnbroken (context.dto ++ "\x7b") := unbroken.dto.append (by decide)
  have fixed : ∀ word ∈ ["package", "", "type", "struct", "\x7b", "\x7d", "func", "\treturn", "\t\x7d"],
      IsUnbroken word := by
    decide
  simp only [List.forall_mem_cons] at fixed
  have opening : ∀ line ∈ context.openingWords, ∀ word ∈ line, IsUnbroken word := by
    simp [Context.openingWords, fixed, unbroken.package, unbroken.dto]
  have middle : ∀ line ∈ context.middleWords, ∀ word ∈ line, IsUnbroken word := by
    simp [Context.middleWords, fixed, head, parameter, literal, unbroken.dto]
  have ending : ∀ line ∈ [["\t\x7d"], ["\x7d"], [""]], ∀ word ∈ line, IsUnbroken word := by
    simp [fixed]
  simp only [Context.words, List.forall_mem_append, List.forall_mem_map]
  exact ⟨opening, fun field listed => (unbroken.fields field listed).declarationWords, middle,
    fun field listed => (unbroken.fields field listed).assignmentWords, ending⟩

/-- The words of the code tell the context. -/
theorem words_injective : Function.Injective words := by
  intro first second same
  have lengths : first.fields.length = second.fields.length := by
    have counted := congrArg List.length same
    simp only [words, openingWords, middleWords, List.length_append, List.length_map, List.length_cons,
      List.length_nil] at counted
    omega
  obtain ⟨opened, rest⟩ := List.append_inj same rfl
  obtain ⟨declared, rest⟩ := List.append_inj rest (by simpa using lengths)
  obtain ⟨between, -⟩ := List.append_inj rest rfl
  have fields := List.map_injective_iff.2 Field.declarationWords_injective declared
  obtain ⟨package, dto⟩ : first.package = second.package ∧ first.dto = second.dto := by
    simpa [openingWords] using opened
  obtain ⟨mapper, source⟩ : first.mapper = second.mapper ∧ first.source = second.source := by
    simpa [middleWords, dto] using between
  cases first
  cases second
  simp_all

theorem linesOfWords_code {context : Context} (unbroken : context.Unbroken) :
    linesOfWords context.code = context.words.map (List.map String.toList) := by
  rw [code, lines_eq]
  exact linesOfWords_intercalate (by simp [words, openingWords]) context.words_ne_nil unbroken.words

/-- Contexts that hold neither spaces nor line breaks have the same code only if they are the same. -/
theorem code_eq_code_iff {first second : Context} (firstUnbroken : first.Unbroken)
    (secondUnbroken : second.Unbroken) : first.code = second.code ↔ first = second := by
  constructor
  · intro same
    have words : first.words.map (List.map String.toList) = second.words.map (List.map String.toList) := by
      rw [← linesOfWords_code firstUnbroken, same, linesOfWords_code secondUnbroken]
    have texts : Function.Injective (List.map (List.map String.toList)) :=
      List.map_injective_iff.2 (List.map_injective_iff.2 fun _ _ same => String.toList_inj.1 same)
    exact words_injective (texts words)
  · rintro rfl
    rfl

/-- Names that are empty or look like parts of the frame, a tag that closes its own quotes, and one more field
that looks like the end of the struct -/
theorem code_eq_code_iff_frame : ∃ first second : Context, first.Unbroken ∧ second.Unbroken ∧
    second.fields = first.fields ++ [⟨"\x7d", "", ""⟩] ∧ first.code ≠ second.code := by
  let fields : List Field := [⟨"", "\x60json:\"", "\"\x60"⟩]
  let first : Context := ⟨"type\t", "", "A)", "F(in", fields⟩
  let second : Context := ⟨"type\t", "", "A)", "F(in", fields ++ [⟨"\x7d", "", ""⟩]⟩
  have own : Field.Unbroken ⟨"", "\x60json:\"", "\"\x60"⟩ := ⟨by decide, by decide, by decide⟩
  have added : Field.Unbroken ⟨"\x7d", "", ""⟩ := ⟨by decide, by decide, by decide⟩
  have firstUnbroken : first.Unbroken :=
    ⟨by decide, by decide, by decide, by decide, by simp [first, fields, own]⟩
  have secondUnbroken : second.Unbroken :=
    ⟨by decide, by decide, by decide, by decide, by simp [second, fields, own, added]⟩
  have differ : first ≠ second := by decide
  exact ⟨first, second, firstUnbroken, secondUnbroken, rfl,
    (code_eq_code_iff firstUnbroken secondUnbroken).not.2 differ⟩

end Context

end Dto

end GoDto
