import GoDto.Proofs.Correspondence

/-!
Moving down by whole lines. What stands further down in a text keeps its columns. If two token
lists differ in nothing else, neither do the trees and the errors that they are read as.
-/

namespace GoDto

/-- The place that many lines further down. -/
def Position.down (count : Nat) (position : Position) : Position :=
  ⟨position.line + count, position.column⟩

def Token.down (count : Nat) (token : Token) : Token :=
  { token with position := token.position.down count }

namespace GoType

mutual

/-- The type with every field in it further down. -/
def down (count : Nat) : GoType → GoType
  | name text => name text
  | qualified base text => qualified (base.down count) text
  | pointer element => pointer (element.down count)
  | sequence element => sequence (element.down count)
  | struct fields => struct (downFields count fields)
  | outline shape => outline shape

def downFields (count : Nat) : List (FieldDecl GoType) → List (FieldDecl GoType)
  | [] => []
  | ⟨names, position, type, tag⟩ :: rest =>
    ⟨names, position.down count, type.down count, tag⟩ :: downFields count rest

end

end GoType

def TypeDecl.down (count : Nat) (decl : TypeDecl) : TypeDecl :=
  { decl with position := decl.position.down count, type := decl.type.down count }

def Diagnostic.down (count : Nat) (diagnostic : Diagnostic) : Diagnostic :=
  { diagnostic with position := diagnostic.position.down count }

namespace Position

theorem down_zero (position : Position) : position.down 0 = position := rfl

theorem advance_down (count : Nat) (position : Position) (c : Char) :
    (position.down count).advance c = (position.advance c).down count := by
  unfold advance
  split
  · simp only [down, Nat.add_right_comm]
  · rfl

theorem after_down (count : Nat) (position : Position) (text : List Char) :
    (position.down count).after text = (position.after text).down count := by
  induction text generalizing position with
  | nil => rfl
  | cons c text ih =>
    rw [after_cons, after_cons, advance_down, ih]

theorem line_after (position : Position) (text : List Char) :
    (position.after text).line = position.line + text.count '\n' := by
  induction text generalizing position with
  | nil => rfl
  | cons c text ih =>
    rw [after_cons, ih, List.count_cons, advance]
    by_cases newline : c = '\n'
    · simp only [newline, if_true, beq_self_eq_true]
      omega
    · simp [newline]

/-- Behind a line break only the number of lines before it matters. -/
theorem after_line (before behind : List Char) :
    start.after (before ++ '\n' :: behind) =
      (start.after ('\n' :: behind)).down (before.count '\n') := by
  have broken : (start.after before).advance '\n' = (start.advance '\n').down (before.count '\n') := by
    simp only [advance, if_true, down, line_after, Position.mk.injEq, and_true]
    omega
  calc
    start.after (before ++ '\n' :: behind)
    _ = ((start.after before).advance '\n').after behind := by rw [after_append, after_cons]
    _ = ((start.advance '\n').after behind).down (before.count '\n') := by rw [broken, after_down]
    _ = (start.after ('\n' :: behind)).down (before.count '\n') := by rw [after_cons]

end Position

/-- The token that many lines further down. -/
def MovedDown (count : Nat) (token other : Token) : Prop := other = token.down count

section
variable {count : Nat}

theorem MovedDown.alike (token other : Token) (moved : MovedDown count token other) :
    token.Alike other := by
  subst moved
  exact ⟨rfl, fun _ => rfl, fun _ _ => rfl⟩

theorem SameText.eq {text other : String} (same : SameText (MovedDown count) text other) :
    other = text := by
  obtain ⟨token, _, rfl, rfl, rfl⟩ := same
  rfl

theorem SamePlace.eq_down {position other : Position}
    (same : SamePlace (MovedDown count) position other) : other = position.down count := by
  obtain ⟨token, _, rfl, rfl, rfl⟩ := same
  rfl

theorem eq_of_sameTexts {names others : List String}
    (same : List.Forall₂ (SameText (MovedDown count)) names others) : others = names := by
  induction same with
  | nil => rfl
  | cons first _ ih => rw [first.eq, ih]

theorem eq_of_sameTag {tag other : Option String}
    (same : Option.Rel (SameText (MovedDown count)) tag other) : other = tag := by
  cases same with
  | none => rfl
  | some same => rw [same.eq]

namespace GoType

mutual

theorem Corresponds.eq_down : ∀ (type other : GoType),
    type.Corresponds (MovedDown count) other → other = type.down count
  | .name text, _, .name same => by rw [same.eq, down]
  | .qualified base text, _, .qualified bases same => by
    rw [same.eq, Corresponds.eq_down base _ bases, down]
  | .pointer element, _, .pointer elements => by rw [Corresponds.eq_down element _ elements, down]
  | .sequence element, _, .sequence elements => by rw [Corresponds.eq_down element _ elements, down]
  | .struct fields, _, .struct others => by rw [Corresponds.eq_downFields fields _ others, down]
  | .outline shape, _, .outline _ => by rw [down]

theorem Corresponds.eq_downFields : ∀ fields others : List (FieldDecl GoType),
    List.Forall₂ (FieldDecl.Corresponds (MovedDown count) (Corresponds (MovedDown count))) fields
      others → others = downFields count fields
  | [], _, .nil => rfl
  | ⟨names, position, type, tag⟩ :: rest, _, .cons (.intro texts places types tags) later => by
    rw [eq_of_sameTexts texts, places.eq_down, Corresponds.eq_down type _ types, eq_of_sameTag tags,
      Corresponds.eq_downFields rest _ later, downFields]

end

end GoType

theorem TypeDecl.Corresponds.eq_down {decl other : TypeDecl}
    (corresponds : decl.Corresponds (MovedDown count) other) : other = decl.down count := by
  obtain ⟨isAlias, names, places, types⟩ := corresponds
  rw [names.eq, places.eq_down, GoType.Corresponds.eq_down _ _ types]
  rfl

theorem SyntaxError.Corresponds.diagnostic {error other : SyntaxError}
    (corresponds : error.Corresponds (MovedDown count) other) :
    other.diagnostic = error.diagnostic.down count := by
  cases corresponds with
  | expected what moved =>
    subst moved
    rfl
  | unexpected moved =>
    subst moved
    rfl
  | unclosed moved =>
    subst moved
    rfl

theorem forall₂_movedDown (tokens : List Token) :
    List.Forall₂ (MovedDown count) tokens (tokens.map (Token.down count)) := by
  induction tokens with
  | nil => exact .nil
  | cons token tokens ih => exact .cons rfl ih

end

end GoDto
