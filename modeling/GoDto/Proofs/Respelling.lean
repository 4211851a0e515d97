import GoDto.Proofs.Faces
import GoDto.Proofs.Names
import GoDto.Dto.Spelling

/-!
What the spelling of a type is read as. A placeholder is read as a pointer to a qualified name, and
everything else as it was. The spelling stays the same.
-/

namespace GoDto

/-- The name in the placeholder for a shape, without its package -/
def Shape.node : Shape → String
  | map => "MapType"
  | channel => "ChanType"
  | function => "FuncType"
  | interface => "InterfaceType"
  | parenthesized => "ParenExpr"
  | instanceOfOne => "IndexExpr"
  | instanceOfMany => "IndexListExpr"

theorem Shape.placeholder_eq (shape : Shape) : shape.placeholder = "*ast." ++ shape.node := by
  cases shape <;> decide

theorem Shape.isName_node (shape : Shape) : IsName shape.node := by
  cases shape <;> decide

theorem IsName.clean {text : String} (isName : IsName text) : (Lexeme.word text).Clean :=
  .word isName.word

namespace GoType

def respelled : GoType → GoType
  | name text => name text
  | qualified base text => qualified base text
  | pointer element => pointer element.respelled
  | sequence element => sequence element.respelled
  | struct _ => pointer (qualified (name "ast") "StructType")
  | outline shape => pointer (qualified (name "ast") shape.node)

theorem spelling_respelled (type : GoType) : type.respelled.spelling = type.spelling := by
  fun_induction respelled type with
  | case3 element ih => rw [spelling, spelling, ih]
  | case4 element ih => rw [spelling, spelling, ih]
  | case6 shape =>
    simp only [spelling, shape.placeholder_eq, ← String.append_assoc]
    rfl
  | _ => rfl

/-- Types that are read as they are spelled -/
inductive Plain : GoType → Prop where
  | name {text : String} : IsName text → Plain (.name text)
  | qualified {base text : String} : IsName base → IsName text → Plain (.qualified (.name base) text)
  | pointer {element : GoType} : Plain element → Plain (.pointer element)
  | sequence {element : GoType} : Plain element → Plain (.sequence element)

theorem plain_placeholder {node : String} (isName : IsName node) :
    Plain (.pointer (.qualified (.name "ast") node)) := by
  apply Plain.pointer
  exact Plain.qualified (by decide) isName

theorem Named.plain_respelled {type : GoType} (named : type.Named) : type.respelled.Plain := by
  induction named with
  | name isName => exact .name isName
  | qualified base isName => exact .qualified base isName
  | pointer _ ih => exact .pointer ih
  | sequence _ ih => exact .sequence ih
  | struct => exact plain_placeholder (by decide)
  | outline shape => exact plain_placeholder shape.isName_node

/-- The lexemes of a type that is read as it is spelled -/
def lexemes : GoType → List Lexeme
  | name text => [.word text]
  | qualified base text => base.lexemes ++ [.mark ".", .word text]
  | pointer element => .mark "*" :: element.lexemes
  | sequence element => .mark "[" :: .mark "]" :: element.lexemes
  | struct _ => []
  | outline _ => []

/-- The tokens of a type that is read as it is spelled -/
def faces : GoType → List (Token.Kind × String)
  | name text => [(.identifier, text)]
  | qualified base text => base.faces ++ [(.operator, "."), (.identifier, text)]
  | pointer element => (.operator, "*") :: element.faces
  | sequence element => (.operator, "[") :: (.operator, "]") :: element.faces
  | struct _ => []
  | outline _ => []

namespace Plain

variable {type : GoType} {rest : List Lexeme}

theorem flatMap_lexemes (plain : type.Plain) : type.lexemes.flatMap Lexeme.text = type.spelling.toList := by
  induction plain with
  | name => simp [lexemes, spelling, Lexeme.word]
  | qualified => simp [lexemes, spelling, Lexeme.word, Lexeme.mark]
  | pointer _ ih => simp [lexemes, spelling, Lexeme.mark, ih]
  | sequence _ ih => simp [lexemes, spelling, Lexeme.mark, ih]

theorem head (plain : type.Plain) : ∃ first later, type.lexemes = first :: later ∧
    (first.shape = .name ∨ first = .mark "*" ∨ first = .mark "[") := by
  cases plain with
  | name => exact ⟨_, _, rfl, .inl rfl⟩
  | qualified => exact ⟨_, _, rfl, .inl rfl⟩
  | pointer => exact ⟨_, _, rfl, .inr (.inl rfl)⟩
  | sequence => exact ⟨_, _, rfl, .inr (.inr rfl)⟩

/-- A mark may stand before a type. -/
theorem parts_mark (plain : type.Plain) (text : String) :
    ∀ next ∈ (type.lexemes ++ rest).head?, (Lexeme.mark text).parts next := by
  obtain ⟨first, later, same, shapes⟩ := plain.head
  rw [same]
  rintro next ⟨⟩
  rcases shapes with shape | rfl | rfl
  · simp [Lexeme.ne_mark_of_shape, shape]
  · simp
  · simp

/-- A blank may stand before a type. -/
theorem parts_gap (plain : type.Plain) (text : String) :
    ∀ next ∈ (type.lexemes ++ rest).head?, (Lexeme.gap text).parts next := by
  obtain ⟨first, later, same, shapes⟩ := plain.head
  rw [same]
  rintro next ⟨⟩
  rcases shapes with shape | rfl | rfl
  · simp [shape]
  · simp
  · simp

theorem joined (plain : type.Plain) (later : Lexeme.Joined rest)
    (blank : ∀ next ∈ rest.head?, next.shape = .blank) : Lexeme.Joined (type.lexemes ++ rest) := by
  have parted (text : String) : ∀ next ∈ rest.head?, (Lexeme.word text).parts next := by
    intro next first
    simp [blank next first]
  induction plain with
  | name isName => exact ⟨isName.clean, parted _, later⟩
  | qualified base isName =>
    exact ⟨base.clean, by simp, .mark (by decide), by simp, isName.clean, parted _, later⟩
  | pointer element ih => exact ⟨.mark (by decide), element.parts_mark "*", ih⟩
  | sequence element ih =>
    exact ⟨.mark (by decide), by simp, .mark (by decide), element.parts_mark "]", ih⟩

theorem faces_append (plain : type.Plain) (ends : Bool) :
    Lexeme.faces ends (type.lexemes ++ rest) = type.faces ++ Lexeme.faces true rest := by
  induction plain generalizing ends with
  | name isName => exact Lexeme.faces_word isName.plain
  | qualified base isName =>
    simp (disch := decide) only [lexemes, faces, List.cons_append, List.nil_append,
      Lexeme.faces_word base.plain, Lexeme.faces_mark, Lexeme.faces_word isName.plain]
  | pointer _ ih =>
    simp (disch := decide) only [lexemes, faces, List.cons_append, Lexeme.faces_mark, ih]
  | sequence _ ih =>
    simp (disch := decide) only [lexemes, faces, List.cons_append, Lexeme.faces_mark,
      Lexeme.faces_closing, ih]

/-- Such a type is read as it is spelled, on its own. -/
theorem all_spelling (plain : type.Plain) : Lexeme.all type.spelling.toList = (type.lexemes, []) := by
  have joined : Lexeme.Joined type.lexemes := by
    rw [← List.append_nil type.lexemes]
    exact plain.joined trivial (by simp)
  rw [← plain.flatMap_lexemes, Lexeme.all_of_joined joined]

theorem filterMap_face? (plain : type.Plain) : type.lexemes.filterMap Lexeme.face? = type.faces := by
  have word {text : String} (isName : IsName text) :
      (Lexeme.word text).face? = some (.identifier, text) := by
    simp [Lexeme.face?, Lexeme.kind?, Lexeme.word, isName.plain]
  have star : (Lexeme.mark "*").face? = some (.operator, "*") := by decide
  have dot : (Lexeme.mark ".").face? = some (.operator, ".") := by decide
  have opener : (Lexeme.mark "[").face? = some (.operator, "[") := by decide
  have closer : (Lexeme.mark "]").face? = some (.operator, "]") := by decide
  induction plain with
  | name isName => simp [lexemes, faces, word isName]
  | qualified base isName => simp [lexemes, faces, word base, word isName, dot]
  | pointer _ ih => simp [lexemes, faces, star, ih]
  | sequence _ ih => simp [lexemes, faces, opener, closer, ih]

/-- Tokens with these faces derive the type. -/
theorem typeOf (plain : type.Plain) {tokens : List Token} (same : tokens.map Token.face = type.faces) :
    Grammar.TypeOf tokens type := by
  induction plain generalizing tokens with
  | name isName =>
    obtain ⟨first, rfl, face⟩ := List.map_eq_singleton_iff.1 same
    obtain ⟨kind, rfl⟩ := Token.face_eq_iff.1 face
    exact .intro (.named (.plain kind))
  | qualified =>
    obtain ⟨first, rest, rfl, firstFace, same⟩ := List.map_eq_cons_iff.1 same
    obtain ⟨dot, rest, rfl, dotFace, same⟩ := List.map_eq_cons_iff.1 same
    obtain ⟨selected, rfl, face⟩ := List.map_eq_singleton_iff.1 same
    obtain ⟨firstKind, rfl⟩ := Token.face_eq_iff.1 firstFace
    obtain ⟨kind, rfl⟩ := Token.face_eq_iff.1 face
    exact .intro (.named (.qualified firstKind (Token.face_eq_iff.1 dotFace) kind))
  | pointer _ ih =>
    obtain ⟨star, rest, rfl, face, same⟩ := List.map_eq_cons_iff.1 same
    exact .intro (.pointer (Token.face_eq_iff.1 face) (ih same))
  | sequence _ ih =>
    obtain ⟨opener, rest, rfl, face, same⟩ := List.map_eq_cons_iff.1 same
    obtain ⟨closer, rest, rfl, closerFace, same⟩ := List.map_eq_cons_iff.1 same
    have opens := Token.face_eq_iff.1 face
    have group : Group opener [opener, closer] := by
      apply @Group.intro opener closer [] (Token.opens_iff.2 (.inr (.inl opens))) balanced_nil
      exact Token.closes_iff.2 (.inr (.inl (Token.face_eq_iff.1 closerFace)))
    exact .intro (.sequence opens group (ih same))

end Plain

end GoType

end GoDto
