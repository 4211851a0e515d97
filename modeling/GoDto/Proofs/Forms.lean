import GoDto.Proofs.Correspondence

/-!
Trees without spellings and places. A form tells by the number of a token where a name, a tag or a place
comes from, and filled with a list of tokens it is a tree. Trees that correspond are one form, filled
with two lists.
-/

namespace GoDto

structure FieldForm (Expr : Type) where
  names : List Nat
  place : Nat
  type : Expr
  tag : Option Nat

inductive TypeForm where
  | name (token : Nat)
  | qualified (base : TypeForm) (token : Nat)
  | pointer (element : TypeForm)
  | sequence (element : TypeForm)
  | struct (fields : List (FieldForm TypeForm))
  | outline (shape : Shape)

structure DeclForm where
  name : Nat
  place : Nat
  isAlias : Bool
  type : TypeForm

structure FileForm where
  package : Nat
  decls : List DeclForm

section
variable (token : Nat → Token)

namespace TypeForm

mutual

/-- The type with the spellings and places of the numbered tokens -/
def fill : TypeForm → GoType
  | name index => .name (token index).text
  | qualified base index => .qualified base.fill (token index).text
  | pointer element => .pointer element.fill
  | sequence element => .sequence element.fill
  | struct fields => .struct (fillFields fields)
  | outline shape => .outline shape

def fillFields : List (FieldForm TypeForm) → List (FieldDecl GoType)
  | [] => []
  | ⟨names, place, type, tag⟩ :: rest =>
    ⟨names.map fun index => (token index).text, (token place).position, type.fill,
      tag.map fun index => (token index).text⟩ :: fillFields rest

end

end TypeForm

def DeclForm.fill (form : DeclForm) : TypeDecl :=
  ⟨(token form.name).text, (token form.place).position, form.isAlias, form.type.fill token⟩

def FileForm.fill (form : FileForm) : SourceFile :=
  ⟨(token form.package).text, form.decls.map (DeclForm.fill token)⟩

end

section
variable (spelled : String → Nat) (placed : Position → Nat)

namespace GoType

mutual

/-- The form of a type in which a spelling and a place tell the number of the token that they are of -/
def form : GoType → TypeForm
  | name text => .name (spelled text)
  | qualified base text => .qualified base.form (spelled text)
  | pointer element => .pointer element.form
  | sequence element => .sequence element.form
  | struct fields => .struct (formFields fields)
  | outline shape => .outline shape

def formFields : List (FieldDecl GoType) → List (FieldForm TypeForm)
  | [] => []
  | ⟨names, position, type, tag⟩ :: rest =>
    ⟨names.map spelled, placed position, type.form, tag.map spelled⟩ :: formFields rest

end

end GoType

def TypeDecl.form (decl : TypeDecl) : DeclForm :=
  ⟨spelled decl.name, placed decl.position, decl.isAlias, decl.type.form spelled placed⟩

def SourceFile.form (file : SourceFile) : FileForm :=
  ⟨spelled file.package, file.decls.map (TypeDecl.form spelled placed)⟩

end

/-- What corresponds under `R` to a spelling or a place is what the token of its number has. -/
structure Traces (R : Token → Token → Prop) (token : Nat → Token) (spelled : String → Nat)
    (placed : Position → Nat) : Prop where
  text : ∀ text other, SameText R text other → other = (token (spelled text)).text
  place : ∀ position other, SamePlace R position other → other = (token (placed position)).position

section
variable {R : Token → Token → Prop} {token : Nat → Token} {spelled : String → Nat}
  {placed : Position → Nat} (traces : Traces R token spelled placed)
include traces

theorem Traces.eq_map {names others : List String} (same : List.Forall₂ (SameText R) names others) :
    others = (names.map spelled).map fun index => (token index).text := by
  induction same with
  | nil => rfl
  | cons first _ ih => rw [traces.text _ _ first, ih, List.map_cons, List.map_cons]

theorem Traces.eq_map_tag {tag other : Option String} (same : Option.Rel (SameText R) tag other) :
    other = (tag.map spelled).map fun index => (token index).text := by
  cases same with
  | none => rfl
  | some same => rw [traces.text _ _ same, Option.map_some, Option.map_some]

namespace GoType

mutual

theorem Corresponds.eq_fill : ∀ type other : GoType, type.Corresponds R other →
    other = (type.form spelled placed).fill token
  | .name text, _, .name same => by rw [traces.text _ _ same, form, TypeForm.fill]
  | .qualified base text, _, .qualified bases same => by
    rw [traces.text _ _ same, Corresponds.eq_fill base _ bases, form, TypeForm.fill]
  | .pointer element, _, .pointer elements => by
    rw [Corresponds.eq_fill element _ elements, form, TypeForm.fill]
  | .sequence element, _, .sequence elements => by
    rw [Corresponds.eq_fill element _ elements, form, TypeForm.fill]
  | .struct fields, _, .struct others => by
    rw [Corresponds.eq_fillFields fields _ others, form, TypeForm.fill]
  | .outline shape, _, .outline _ => by rw [form, TypeForm.fill]

theorem Corresponds.eq_fillFields : ∀ fields others : List (FieldDecl GoType),
    List.Forall₂ (FieldDecl.Corresponds R (Corresponds R)) fields others →
    others = TypeForm.fillFields token (formFields spelled placed fields)
  | [], _, .nil => rfl
  | ⟨names, position, type, tag⟩ :: rest, _, .cons (.intro same samePlace types tags) later => by
    rw [traces.eq_map same, traces.place _ _ samePlace, Corresponds.eq_fill type _ types,
      traces.eq_map_tag tags, Corresponds.eq_fillFields rest _ later, formFields,
      TypeForm.fillFields]

end

end GoType

theorem TypeDecl.Corresponds.eq_fill {decl other : TypeDecl} (corresponds : decl.Corresponds R other) :
    other = (decl.form spelled placed).fill token := by
  obtain ⟨isAlias, names, samePlace, types⟩ := corresponds
  rw [traces.text _ _ names, traces.place _ _ samePlace, GoType.Corresponds.eq_fill traces _ _ types]
  rfl

theorem SourceFile.Corresponds.eq_fill {file other : SourceFile} (corresponds : file.Corresponds R other) :
    other = (file.form spelled placed).fill token := by
  obtain ⟨package, decls⟩ := corresponds
  rw [traces.text _ _ package]
  induction decls with
  | nil => rfl
  | cons first _ ih =>
    simp only [form, FileForm.fill, SourceFile.mk.injEq, List.map_cons, true_and] at ih ⊢
    rw [ih, first.eq_fill traces]

end

end GoDto
