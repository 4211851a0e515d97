import GoDto.Proofs.Lossless
import GoDto.Proofs.Regeneration

/-!
What a generated text consists of. Its tokens are those of a fixed frame, with the names, types and
tags of the context put in. No source text adds to them or takes any of them away.
-/

namespace GoDto

/-- The tokens that are spelled in a text, wherever they stand there -/
def spelledFaces (text : String) : List (Token.Kind × String) :=
  match Tokens.ofText text with
  | .ok tokens => tokens.spelled.map Token.face
  | .error _ => []

namespace Lexeme

/-- The tokens that are spelled are those that lexemes stand for. -/
theorem map_face_filter_layOut {lexemes : List Lexeme} (formed : ∀ lexeme ∈ lexemes, lexeme.Formed)
    (ends : Bool) (position : Position) :
    ((layOut ends position lexemes).filter Token.isSpelled).map Token.face =
      lexemes.filterMap face? := by
  induction lexemes generalizing ends position with
  | nil => cases ends <;> rfl
  | cons lexeme lexemes ih =>
    have later := ih fun other member => formed other (List.mem_cons_of_mem _ member)
    unfold layOut
    cases stands : lexeme.kind? with
    | none =>
      have absent : lexeme.face? = none := by simp [face?, stands]
      simp only
      rw [List.filterMap_cons_none absent]
      split
      · exact later false _
      · exact later ends _
    | some kind =>
      have own : lexeme.face? = some (kind, String.ofList lexeme.text) := by simp [face?, stands]
      have spelled := isSpelled_of_kind? (formed lexeme List.mem_cons_self) stands position
      simp only
      rw [List.filterMap_cons_some own, List.filter_cons_of_pos spelled, List.map_cons, later]
      rfl

end Lexeme

/-- A text that falls into lexemes falls into their tokens. -/
theorem spelledFaces_of_all {text : String} {lexemes : List Lexeme}
    (whole : Lexeme.all text.toList = (lexemes, [])) :
    (∃ tokens, Tokens.ofText text = .ok tokens) ∧ spelledFaces text = lexemes.filterMap Lexeme.face? := by
  have read := Tokens.ofText_eq_ok_iff.2 ⟨lexemes, whole, rfl⟩
  refine ⟨⟨_, read⟩, ?_⟩
  have formed : ∀ lexeme ∈ lexemes, lexeme.Formed := by
    have all := @Lexeme.formed_of_all text.toList
    rwa [whole] at all
  have ending : [Token.fileEnd (Position.start.after text.toList)].filter Token.isSpelled = [] := rfl
  rw [spelledFaces, read]
  simp only [Tokens.spelled, Tokens.toList, List.filter_append, ending, List.append_nil]
  exact Lexeme.map_face_filter_layOut formed _ _

namespace Dto

/-- The tokens of the line on which a field is declared, with the semicolon that ends it -/
def Field.declaredContents (field : Field) : List (Token.Kind × String) :=
  (.identifier, field.name) :: spelledFaces field.type ++
    [(.rawString, "\x60json:\"" ++ field.tag ++ "\"\x60"), (.semicolon, "\n")]

/-- The tokens of a generated text from its first to its last one -/
def Context.contents (context : Context) : List (Token.Kind × String) :=
  [(.keyword, "package"), (.identifier, context.package), (.semicolon, "\n"),
    (.keyword, "type"), (.identifier, context.dto), (.keyword, "struct"), (.operator, "\x7b")] ++
  context.fields.flatMap Field.declaredContents ++
  [(.operator, "\x7d"), (.semicolon, "\n"),
    (.keyword, "func"), (.identifier, context.mapper), (.operator, "("), (.identifier, "in"),
    (.identifier, context.source), (.operator, ")"), (.identifier, context.dto), (.operator, "\x7b"),
    (.keyword, "return"), (.identifier, context.dto), (.operator, "\x7b")] ++
  context.fields.flatMap Field.assignedFaces ++
  [(.operator, "\x7d"), (.semicolon, "\n"), (.operator, "\x7d"), (.semicolon, "\n"), (.endOfFile, "")]

/-- The type of a field falls into tokens on its own, and they are those on the line of the field. -/
theorem Field.Sound.declaredContents {field : Field} (sound : field.Sound) :
    (∃ tokens, Tokens.ofText field.type = .ok tokens) ∧
      field.declaredContents = field.declaredFaces := by
  obtain ⟨type, plain, same⟩ := sound.type
  have whole : Lexeme.all field.type.toList = (type.lexemes, []) := by rw [← same, plain.all_spelling]
  obtain ⟨read, spelled⟩ := spelledFaces_of_all whole
  refine ⟨read, ?_⟩
  have tag : "\x60json:\"" ++ field.tag ++ "\"\x60" = "\x60" ++ field.tagText ++ "\x60" := by
    simp [tagText, ← String.toList_inj]
  rw [Field.declaredContents, declaredFaces, spelled, whole, tag]
  rfl

theorem Context.Sound.contents {context : Context} (sound : context.Sound) :
    context.contents = context.faces ++ [(.endOfFile, "")] := by
  have declared : context.fields.flatMap Field.declaredContents =
      context.fields.flatMap Field.declaredFaces := by
    apply List.flatMap_congr
    exact fun field member => (sound.fields field member).declaredContents.2
  rw [Context.contents, declared, faces]
  simp only [openingFaces, middleFaces, functionFaces, endingFaces, lineFace, Token.leftBrace,
    Token.rightBrace, List.append_assoc, List.cons_append, List.nil_append]

end Dto

namespace Generation

variable {text name label code : String} {context : Dto.Context}

/-- A generated text consists of the tokens of its context and no others. The only declarations among
them are the struct, with the fields of the context, and the function. -/
theorem contents_of_fromText (made : (fromText text name label).result = .ok (context, code)) :
    ∃ tokens, Tokens.ofText code = .ok tokens ∧ tokens.toList.map Token.face = context.contents ∧
      (∀ field ∈ context.fields, ∃ own, Tokens.ofText field.type = .ok own) ∧
      ∃ position body, SourceFile.ofTokens tokens =
          .ok ⟨context.package, [⟨context.dto, position, false, .struct body⟩]⟩ ∧
        body.flatMap FieldDecl.fields = context.fields := by
  have sound := sound_of_fromText made
  obtain ⟨-, -, -, -, -, -, -, rfl⟩ := fromText_eq_ok.1 made
  obtain ⟨tokens, position, body, lexed, faces, read, taken⟩ := read_code sound
  have ending : tokens.final.face = (.endOfFile, "") := by
    obtain ⟨kind, text⟩ := (Tokens.proper_of_ofText lexed).final
    exact Token.face_eq_iff.2 ⟨kind, text⟩
  refine ⟨tokens, lexed, ?_, ?_, position, body, read, taken⟩
  · rw [sound.contents, Tokens.toList, List.map_append, faces, List.map_singleton, ending]
  · exact fun field member => (sound.fields field member).declaredContents.1

/-- Two names of one type that is shown as a placeholder, and a qualified type -/
theorem contents_of_fromText_struct : ∃ context code tokens,
    (fromText "package p\ntype A struct \x7b B, Ü map[int]string; C []*q.T \x7d" "A" "a.go").result =
      .ok (context, code) ∧
    context.fields = [⟨"B", "*ast.MapType", "b"⟩, ⟨"Ü", "*ast.MapType", "ü"⟩, ⟨"C", "[]*q.T", "c"⟩] ∧
    Tokens.ofText code = .ok tokens ∧ tokens.toList.map Token.face = context.contents := by
  let found : Dto.Context := .ofStruct "A"
    ⟨"p", [⟨"B", "*ast.MapType", "b"⟩, ⟨"Ü", "*ast.MapType", "ü"⟩, ⟨"C", "[]*q.T", "c"⟩]⟩
  have made : (fromText "package p\ntype A struct \x7b B, Ü map[int]string; C []*q.T \x7d" "A"
      "a.go").result = .ok (found, found.code) := by decide +kernel
  obtain ⟨tokens, read, contents, -⟩ := contents_of_fromText made
  exact ⟨found, found.code, tokens, made, rfl, read, contents⟩

end Generation

end GoDto
