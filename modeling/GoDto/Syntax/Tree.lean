import GoDto.Source.Position

/-!
Syntax trees of Go source files, as far as type declarations go. A type that could not be written
again from its names alone is kept as a bare shape.
-/

namespace GoDto

/-- Types of which only the kind is kept. -/
inductive Shape where
  | map
  | channel
  | function
  | interface
  | parenthesized
  | instanceOfOne
  | instanceOfMany
  deriving DecidableEq, Repr

/-- One line of a struct body. An embedded field has no names. -/
structure FieldDecl (Expr : Type) where
  names : List String
  position : Position
  type : Expr
  tag : Option String
  deriving DecidableEq, Repr

inductive GoType where
  | name (text : String)
  | qualified (base : GoType) (text : String)
  | pointer (element : GoType)
  | sequence (element : GoType)
  | struct (fields : List (FieldDecl GoType))
  | outline (shape : Shape)
  deriving Repr

namespace GoType

mutual

def same : GoType → GoType → Bool
  | name first, name second => first == second
  | qualified first text, qualified second other => first.same second && text == other
  | pointer first, pointer second => first.same second
  | sequence first, sequence second => first.same second
  | struct first, struct second => sameFields first second
  | outline first, outline second => first == second
  | _, _ => false

def sameFields : List (FieldDecl GoType) → List (FieldDecl GoType) → Bool
  | [], [] => true
  | ⟨names, position, type, tag⟩ :: rest, ⟨names', position', type', tag'⟩ :: rest' =>
    names == names' && position == position' && type.same type' && tag == tag' &&
      sameFields rest rest'
  | _, _ => false

end

mutual

theorem same_iff : ∀ first second : GoType, first.same second = true ↔ first = second
  | name first, second => by cases second <;> simp [same]
  | qualified first text, second => by cases second <;> simp [same, same_iff first]
  | pointer first, second => by cases second <;> simp [same, same_iff first]
  | sequence first, second => by cases second <;> simp [same, same_iff first]
  | struct first, second => by cases second <;> simp [same, sameFields_iff first]
  | outline first, second => by cases second <;> simp [same]

theorem sameFields_iff : ∀ first second : List (FieldDecl GoType),
    sameFields first second = true ↔ first = second
  | [], second => by cases second <;> simp [sameFields]
  | ⟨names, position, type, tag⟩ :: rest, second => by
    rcases second with _ | ⟨⟨names', position', type', tag'⟩, rest'⟩
    · simp [sameFields]
    · simp [sameFields, same_iff type, sameFields_iff rest, and_assoc]

end

/-- Types are compared constructor by constructor, and structs field by field. -/
instance : DecidableEq GoType := fun first second => decidable_of_iff _ (same_iff first second)

end GoType

structure TypeDecl where
  name : String
  position : Position
  isAlias : Bool
  type : GoType
  deriving DecidableEq, Repr

structure SourceFile where
  package : String
  decls : List TypeDecl
  deriving DecidableEq, Repr

end GoDto
