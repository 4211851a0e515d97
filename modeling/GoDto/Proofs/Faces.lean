import GoDto.Proofs.Joining

/-!
Tokens apart from their places. Which tokens lexemes stand for is laid out again without counting
lines and columns.
-/

namespace GoDto

/-- What a token is, and how it is spelled -/
def Token.face (token : Token) : Token.Kind × String := (token.kind, token.text)

theorem Token.face_eq_iff {token : Token} {kind : Token.Kind} {text : String} :
    token.face = (kind, text) ↔ token.kind = kind ∧ token.text = text := Prod.ext_iff

/-- The semicolon that stands for a line break -/
def lineFace : Token.Kind × String := (.semicolon, "\n")

namespace Lexeme

/-- The token that a lexeme stands for, wherever it stands -/
def face? (lexeme : Lexeme) : Option (Token.Kind × String) :=
  lexeme.kind?.map fun kind => (kind, String.ofList lexeme.text)

/-- The tokens among lexemes. The flag tells whether a line break in front ends a statement. -/
def faces (ends : Bool) : List Lexeme → List (Token.Kind × String)
  | [] => if ends then [lineFace] else []
  | lexeme :: rest =>
    match lexeme.kind? with
    | none =>
      if ends && lexeme.text.contains '\n' then lineFace :: faces false rest else faces ends rest
    | some kind =>
      let token : Token := ⟨kind, String.ofList lexeme.text, .start⟩
      token.face :: faces token.mayEndStatement rest

theorem map_face_layOut (ends : Bool) (position : Position) (lexemes : List Lexeme) :
    (layOut ends position lexemes).map Token.face = faces ends lexemes := by
  induction lexemes generalizing ends position with
  | nil => cases ends <;> rfl
  | cons lexeme lexemes ih =>
    unfold layOut faces
    cases lexeme.kind? with
    | none =>
      simp only
      split
      · rw [List.map_cons, ih]
        rfl
      · exact ih _ _
    | some kind =>
      simp only [List.map_cons, ih]
      rfl

variable {text : String} {rest : List Lexeme} {ends : Bool}

theorem faces_of_kind? {lexeme : Lexeme} {kind : Token.Kind} (stands : lexeme.kind? = some kind)
    (spelled : String.ofList lexeme.text = text) : faces ends (lexeme :: rest) =
      (kind, text) :: faces (Token.mayEndStatement ⟨kind, text, .start⟩) rest := by
  subst spelled
  rw [faces, stands]
  rfl

theorem faces_word (plain : text ∉ Token.keywords) :
    faces ends (word text :: rest) = (.identifier, text) :: faces true rest :=
  faces_of_kind? (by simp [kind?, word, plain]) String.ofList_toList

theorem faces_keyword (listed : text ∈ Token.keywords)
    (goesOn : text ∉ ["break", "continue", "fallthrough", "return"]) :
    faces ends (word text :: rest) = (.keyword, text) :: faces false rest := by
  have flag : Token.mayEndStatement ⟨.keyword, text, .start⟩ = false := by
    simpa [Token.mayEndStatement] using goesOn
  rw [← flag]
  exact faces_of_kind? (by simp [kind?, word, listed]) String.ofList_toList

theorem faces_return :
    faces ends (word "return" :: rest) = (.keyword, "return") :: faces true rest :=
  faces_of_kind? (by decide) String.ofList_toList

theorem faces_mark (listed : text ∈ ["(", "[", "\x7b", ",", ":", "*", "."]) :
    faces ends (mark text :: rest) = (.operator, text) :: faces false rest := by
  have known : ∀ text ∈ ["(", "[", "\x7b", ",", ":", "*", "."], (mark text).kind? = some .operator ∧
      Token.mayEndStatement ⟨.operator, text, .start⟩ = false := by decide
  rw [← (known text listed).2]
  exact faces_of_kind? (known text listed).1 String.ofList_toList

theorem faces_closing (listed : text ∈ [")", "]", "\x7d"]) :
    faces ends (mark text :: rest) = (.operator, text) :: faces true rest := by
  have known : ∀ text ∈ [")", "]", "\x7d"], (mark text).kind? = some .operator ∧
      Token.mayEndStatement ⟨.operator, text, .start⟩ = true := by decide
  rw [← (known text listed).2]
  exact faces_of_kind? (known text listed).1 String.ofList_toList

theorem faces_raw : faces ends (raw text :: rest) =
    (.rawString, "\x60" ++ text ++ "\x60") :: faces true rest := by
  have spelled : String.ofList (raw text).text = "\x60" ++ text ++ "\x60" := by
    simp [raw, ← String.toList_inj]
  exact faces_of_kind? rfl spelled

theorem faces_space : faces ends (gap " " :: rest) = faces ends rest := by
  simp [faces, kind?, gap]

theorem faces_line (breaks : '\n' ∈ text.toList) : faces ends (gap text :: rest) =
    (if ends then [lineFace] else []) ++ faces false rest := by
  cases ends <;> simp [faces, kind?, gap, breaks]

end Lexeme

end GoDto
