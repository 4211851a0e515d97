import GoDto.Proofs.TagSlots
import GoDto.Proofs.TypeTokens

/-!
Slots for tags in trees. A slot in the tokens is one in the tree, unless the tree keeps nothing of it.
Every slot in the tree is one in the tokens that the tree is derived from.
-/

namespace GoDto

/-- A type with a slot for the tag of a field, at any depth -/
inductive GoType.TagSlot : (Option String → GoType) → Prop where
  | own {before after : List (FieldDecl GoType)} {names : List String} {position : Position}
      {type : GoType} :
      TagSlot fun tag => .struct (before ++ ⟨names, position, type, tag⟩ :: after)
  | inside {before after : List (FieldDecl GoType)} {names : List String} {position : Position}
      {plug : Option String → GoType} {own : Option String} : TagSlot plug →
      TagSlot fun tag => .struct (before ++ ⟨names, position, plug tag, own⟩ :: after)
  | pointer {plug : Option String → GoType} : TagSlot plug → TagSlot fun tag => .pointer (plug tag)
  | sequence {plug : Option String → GoType} : TagSlot plug → TagSlot fun tag => .sequence (plug tag)

/-- A file with a slot for the tag of a field in one of its declarations -/
inductive SourceFile.TagSlot : (Option String → SourceFile) → Prop where
  | intro {package name : String} {before after : List TypeDecl} {position : Position} {isAlias : Bool}
      {plug : Option String → GoType} : GoType.TagSlot plug →
      TagSlot fun tag => ⟨package, before ++ ⟨name, position, isAlias, plug tag⟩ :: after⟩

namespace Grammar

section
variable {α : Type} {Item : List Token → α → Prop}
  {ItemSlot : List Token → List Token → (Option String → α) → Prop} {front back : List Token}

/-- The tree keeps the slot of a field, or it keeps nothing of the slot. -/
def Kept (plug : Option String → GoType) : Prop :=
  GoType.TagSlot plug ∨ ∃ type, plug = fun _ => type

theorem ItemsSlot.kept {plug : Option String → List α} (slot : ItemsSlot Item ItemSlot front back plug) :
    ∃ before after inner front back, (plug = fun tag => before ++ inner tag :: after) ∧
      ItemSlot front back inner := by
  induction slot with
  | last _ slot => exact ⟨[], [], _, _, _, rfl, slot⟩
  | here _ slot => exact ⟨[], _, _, _, _, rfl, slot⟩
  | later _ _ _ _ ih =>
    obtain ⟨before, after, inner, front, back, rfl, slot⟩ := ih
    exact ⟨_ :: before, after, inner, front, back, rfl, slot⟩

theorem Kept.pointer {plug : Option String → GoType} (kept : Kept plug) :
    Kept fun tag => .pointer (plug tag) := by
  rcases kept with slot | ⟨type, rfl⟩
  · exact .inl (.pointer slot)
  · exact .inr ⟨_, rfl⟩

theorem TypeSlot.kept {plug : Option String → GoType} (slot : TypeSlot front back plug) : Kept plug := by
  refine @TypeSlot.induction (fun _ _ plug => Kept plug) ?_ front back plug slot
  intro front back plug rule
  cases rule with
  | pointer _ known => exact known.2.pointer
  | sequence _ _ known =>
    rcases known.2 with slot | ⟨type, rfl⟩
    · exact .inl (.sequence slot)
    · exact .inr ⟨_, rfl⟩
  | struct _ _ fields _ =>
    obtain ⟨before, after, inner, _, _, rfl, field⟩ := fields.kept
    cases field with
    | own => exact .inl .own
    | inside parts _ =>
      have kept : ∀ {front back names plug}, FieldPartsSlot
          (fun front back plug => TypeSlot front back plug ∧ Kept plug) front back names plug → Kept plug := by
        intro front back names plug slot
        cases slot with
        | pointer _ known => exact known.2.pointer
        | embedded _ known => exact known.2
        | named _ known => exact known.2
      rcases kept parts with slot | ⟨type, rfl⟩
      · exact .inl (.inside slot)
      · exact .inr ⟨_, rfl⟩
  | _ => exact .inr ⟨_, rfl⟩

theorem SpecSlot.kept {plug : Option String → TypeDecl} (slot : SpecSlot front back plug) :
    ∃ name position isAlias inner, (plug = fun tag => ⟨name, position, isAlias, inner tag⟩) ∧ Kept inner := by
  cases slot with
  | intro _ _ _ slot => exact ⟨_, _, _, _, rfl, slot.kept⟩

theorem DeclSlot.kept {plug : Option String → List TypeDecl} (slot : DeclSlot front back plug) :
    ∃ before after inner front back, (plug = fun tag => before ++ inner tag :: after) ∧
      SpecSlot front back inner := by
  cases slot with
  | type _ slot => exact ⟨[], [], _, _, _, rfl, slot⟩
  | types _ _ specs _ => exact specs.kept

theorem DeclsSlot.kept {plug : Option String → List TypeDecl} (slot : DeclsSlot front back plug) :
    ∃ before after inner front back, (plug = fun tag => before ++ inner tag :: after) ∧
      SpecSlot front back inner := by
  induction slot with
  | @here _ _ _ _ _ _ later _ declSlot _ _ =>
    obtain ⟨before, after, inner, front, back, rfl, slot⟩ := declSlot.kept
    exact ⟨before, after ++ later, inner, front, back, by simp, slot⟩
  | @later _ _ _ _ _ decls _ _ _ _ _ ih =>
    obtain ⟨before, after, inner, front, back, rfl, slot⟩ := ih
    exact ⟨decls ++ before, after, inner, front, back, by simp, slot⟩

theorem FileSlot.kept {plug : Option String → SourceFile} (slot : FileSlot front back plug) :
    SourceFile.TagSlot plug ∨ ∃ file, plug = fun _ => file := by
  cases slot with
  | intro _ _ _ _ declsSlot =>
    obtain ⟨before, after, inner, _, _, rfl, specSlot⟩ := declsSlot.kept
    obtain ⟨name, position, isAlias, inner, rfl, kept⟩ := specSlot.kept
    rcases kept with slot | ⟨type, rfl⟩
    · exact .inl (.intro slot)
    · exact .inr ⟨_, rfl⟩

/-- The tokens have such a slot, in which the tag stands. -/
def HasSlot (ItemSlot : List Token → List Token → (Option String → α) → Prop) (tokens : List Token)
    (plug : Option String → α) (tag : Option String) : Prop :=
  ∃ front ending back, tokens = front ++ ending ++ back ∧ Tag ending tag ∧ ItemSlot front back plug

theorem Items.weaken {Weak : List Token → α → Prop} {tokens : List Token} {values : List α}
    (weaken : ∀ {front value}, Item front value → Weak front value) (items : Items Item tokens values) :
    Items Weak tokens values := by
  induction items with
  | none blank => exact .none blank
  | last blank item => exact .last blank (weaken item)
  | more blank item semicolon _ ih => exact .more blank (weaken item) semicolon ih

/-- Where an item has a slot, the items around it have one. -/
theorem Items.hasSlot {Weak : List Token → α → Prop} {tokens : List Token} {before after : List α}
    {plug : Option String → α} {tag : Option String}
    (weaken : ∀ {front value}, Item front value → Weak front value)
    (own : ∀ {front}, Item front (plug tag) → HasSlot ItemSlot front plug tag)
    (items : Items Item tokens (before ++ plug tag :: after)) :
    HasSlot (ItemsSlot Weak ItemSlot) tokens (fun tag => before ++ plug tag :: after) tag := by
  generalize same : before ++ plug tag :: after = values at items
  induction items generalizing before with
  | none => simp at same
  | last blank item =>
    cases before with
    | nil =>
      obtain ⟨rfl, rfl⟩ := List.cons.inj same
      obtain ⟨front, ending, back, rfl, tagged, slot⟩ := own item
      exact ⟨_, ending, back, by simp, tagged, .last blank slot⟩
    | cons first before => simp at same
  | more blank item semicolon rest ih =>
    cases before with
    | nil =>
      obtain ⟨rfl, rfl⟩ := List.cons.inj same
      obtain ⟨front, ending, back, rfl, tagged, slot⟩ := own item
      exact ⟨_, ending, _, by simp, tagged, .here blank slot semicolon (rest.weaken weaken)⟩
    | cons first before =>
      obtain ⟨rfl, rest⟩ := List.cons.inj same
      obtain ⟨front, ending, back, rfl, tagged, slot⟩ := ih rest
      exact ⟨_, ending, back, by simp, tagged, .later blank (weaken item) semicolon slot⟩

section
variable {Inner Weak : List Token → GoType → Prop} {tokens : List Token}

theorem FieldParts.weaken {names : List String} {type : GoType}
    (weaken : ∀ {tokens type}, Inner tokens type → Weak tokens type)
    (parts : FieldParts Inner tokens names type) : FieldParts Weak tokens names type := by
  cases parts with
  | pointer star derives => exact .pointer star (weaken derives)
  | embedded first derives => exact .embedded first (weaken derives)
  | named names derives => exact .named names (weaken derives)

theorem Field.weaken {decl : FieldDecl GoType}
    (weaken : ∀ {tokens type}, Inner tokens type → Weak tokens type) (field : Field Inner tokens decl) :
    Field Weak tokens decl := by
  cases field with
  | intro parts tagged => exact .intro (parts.weaken weaken) tagged

section
variable {plug : Option String → GoType} {tag : Option String}
  (holds : ∀ {tokens plug tag}, Inner tokens (plug tag) → GoType.TagSlot plug → HasSlot TypeSlot tokens plug tag)
include holds

theorem FieldParts.hasSlot {first : Token} {rest : List Token} {names : List String}
    (slot : GoType.TagSlot plug) (parts : FieldParts Inner (first :: rest) names (plug tag)) :
    ∃ front ending back, rest = front ++ ending ++ back ∧ Tag ending tag ∧
      FieldPartsSlot TypeSlot (first :: front) back names plug := by
  generalize whole : first :: rest = tokens at parts
  generalize made : plug tag = type at parts
  cases parts with
  | pointer star derives =>
    obtain ⟨rfl, rfl⟩ := List.cons.inj whole
    cases slot with
    | own => cases made
    | inside => cases made
    | sequence => cases made
    | pointer slot =>
      cases made
      obtain ⟨front, ending, back, rfl, tagged, inner⟩ := holds derives slot
      exact ⟨front, ending, back, rfl, tagged, .pointer star inner⟩
  | embedded identifier derives =>
    obtain ⟨rfl, rfl⟩ := List.cons.inj whole
    subst made
    obtain ⟨front, ending, back, same, tagged, inner⟩ := holds derives slot
    cases front with
    | nil => exact absurd inner.three_le (by simp)
    | cons next front =>
      obtain ⟨rfl, rfl⟩ := List.cons.inj same
      exact ⟨front, ending, back, rfl, tagged, .embedded identifier inner⟩
  | @named own _ _ _ listed derives =>
    subst made
    obtain ⟨front, ending, back, rfl, tagged, inner⟩ := holds derives slot
    have parts := FieldPartsSlot.named listed inner
    cases own with
    | nil => cases listed
    | cons next own =>
      obtain ⟨rfl, rfl⟩ := List.cons.inj whole
      exact ⟨own ++ front, ending, back, by simp, tagged, parts⟩

theorem Field.hasSlot_inside {names : List String} {position : Position} {own : Option String}
    (slot : GoType.TagSlot plug) (field : Field Inner tokens ⟨names, position, plug tag, own⟩) :
    HasSlot (FieldSlot TypeOf TypeSlot) tokens (fun tag => ⟨names, position, plug tag, own⟩) tag := by
  cases field with
  | intro parts ownTagged =>
    obtain ⟨front, ending, back, rfl, tagged, inner⟩ := parts.hasSlot holds slot
    exact ⟨_, ending, _, by simp, tagged, .inside inner ownTagged⟩

omit holds in
theorem Field.hasSlot_own {names : List String} {position : Position} {type : GoType}
    (weaken : ∀ {tokens type}, Inner tokens type → TypeOf tokens type)
    (field : Field Inner tokens ⟨names, position, type, tag⟩) :
    HasSlot (FieldSlot TypeOf TypeSlot) tokens (fun tag => ⟨names, position, type, tag⟩) tag := by
  cases field with
  | intro parts tagged => exact ⟨_, _, [], (List.append_nil _).symm, tagged, .own (parts.weaken weaken)⟩

omit holds in
/-- The fields of a struct have a slot that one of them has. -/
theorem TypeSlot.of_fields {keyword opener closer : Token} {plug : Option String → List (FieldDecl GoType)}
    (isStruct : keyword.IsKeyword "struct") (opens : opener.IsOperator Token.leftBrace)
    (closes : closer.IsOperator Token.rightBrace)
    (fields : HasSlot (ItemsSlot (Field TypeOf) (FieldSlot TypeOf TypeSlot)) tokens plug tag) :
    HasSlot TypeSlot (keyword :: opener :: (tokens ++ [closer])) (fun tag => .struct (plug tag)) tag := by
  obtain ⟨front, ending, back, rfl, tagged, inner⟩ := fields
  exact ⟨_, ending, _, by simp, tagged, .intro (.struct isStruct opens inner closes)⟩

theorem TypeRule.hasSlot (weaken : ∀ {tokens type}, Inner tokens type → TypeOf tokens type)
    (slot : GoType.TagSlot plug) (rule : TypeRule Inner tokens (plug tag)) :
    HasSlot TypeSlot tokens plug tag := by
  cases slot with
  | pointer slot =>
    cases rule with
    | pointer star derives =>
      obtain ⟨front, ending, back, rfl, tagged, inner⟩ := holds derives slot
      exact ⟨_, ending, back, rfl, tagged, .intro (.pointer star inner)⟩
    | named name => cases name
  | sequence slot =>
    cases rule with
    | sequence opener length derives =>
      obtain ⟨front, ending, back, rfl, tagged, inner⟩ := holds derives slot
      exact ⟨_, ending, back, by simp, tagged, .intro (.sequence opener length inner)⟩
    | named name => cases name
  | @own before after names position type =>
    cases rule with
    | struct keyword opener items closer =>
      have fields := @Items.hasSlot _ _ (FieldSlot TypeOf TypeSlot) (Field TypeOf) _ before after
        (fun tag => ⟨names, position, type, tag⟩) tag (fun field => field.weaken weaken)
        (fun field => field.hasSlot_own weaken) items
      exact TypeSlot.of_fields keyword opener closer fields
    | named name => cases name
  | @inside before after names position inner own slot =>
    cases rule with
    | struct keyword opener items closer =>
      have fields := @Items.hasSlot _ _ (FieldSlot TypeOf TypeSlot) (Field TypeOf) _ before after
        (fun tag => ⟨names, position, inner tag, own⟩) tag (fun field => field.weaken weaken)
        (fun field => field.hasSlot_inside holds slot) items
      exact TypeSlot.of_fields keyword opener closer fields
    | named name => cases name

end

end

end

/-- Wherever a field is in a type, its tag stands in a slot. -/
theorem TypeOf.hasSlot {tokens : List Token} {plug : Option String → GoType} {tag : Option String}
    (derives : TypeOf tokens (plug tag)) (slot : GoType.TagSlot plug) : HasSlot TypeSlot tokens plug tag := by
  generalize made : plug tag = type at derives
  have holds := @TypeOf.induction (fun tokens type => ∀ plug tag, GoType.TagSlot plug → plug tag = type →
    HasSlot TypeSlot tokens plug tag) ?_ tokens type derives
  · exact holds plug tag slot made
  · rintro tokens _ rule plug tag slot rfl
    exact rule.hasSlot (fun known slot => known.2 _ _ slot rfl) (fun known => known.1) slot

theorem Spec.hasSlot {tokens : List Token} {name : String} {position : Position} {isAlias : Bool}
    {plug : Option String → GoType} {tag : Option String} (slot : GoType.TagSlot plug)
    (spec : Spec tokens ⟨name, position, isAlias, plug tag⟩) :
    HasSlot SpecSlot tokens (fun tag => ⟨name, position, isAlias, plug tag⟩) tag := by
  cases spec with
  | @intro first parameters sign rest _ _ identifier listed marked derives =>
    obtain ⟨front, ending, back, rfl, tagged, inner⟩ := derives.hasSlot slot
    have before : Parameters parameters (sign ++ front) := by
      rw [List.append_assoc front, ← List.append_assoc sign] at listed
      exact listed.restrict
    exact ⟨_, ending, back, by simp, tagged, .intro identifier before marked inner⟩

section
variable {front back : List Token}

theorem DeclsSlot.front_ne_nil {plug : Option String → List TypeDecl} (slot : DeclsSlot front back plug) :
    front ≠ [] := by
  cases slot with
  | here _ slot => cases slot <;> simp
  | later _ own =>
    obtain ⟨first, rest, rfl, -⟩ := own.first
    simp

theorem DeclsSlot.back_concat {plug : Option String → List TypeDecl} (slot : DeclsSlot front back plug) :
    ∃ middle last, back = middle ++ [last] := by
  induction slot with
  | @here _ _ back ending _ _ _ _ _ _ later =>
    obtain ⟨middle, last, rfl⟩ := concat_of_decls later
    exact ⟨back ++ (ending ++ middle), last, by simp⟩
  | later _ _ _ _ ih => exact ih

section
variable {tokens : List Token} {before after : List TypeDecl} {plug : Option String → TypeDecl}
  {tag : Option String}
  (holds : ∀ {tokens}, Spec tokens (plug tag) → HasSlot SpecSlot tokens plug tag)
include holds

theorem Decl.hasSlot (decl : Decl tokens (before ++ plug tag :: after)) :
    HasSlot DeclSlot tokens (fun tag => before ++ plug tag :: after) tag := by
  generalize same : before ++ plug tag :: after = decls at decl
  cases decl with
  | type keyword spec =>
    cases before with
    | nil =>
      obtain ⟨rfl, rfl⟩ := List.cons.inj same
      obtain ⟨front, ending, back, rfl, tagged, slot⟩ := holds spec
      exact ⟨_, ending, back, rfl, tagged, .type keyword slot⟩
    | cons first before => simp at same
  | types keyword opener specs closer =>
    subst same
    obtain ⟨front, ending, back, rfl, tagged, slot⟩ := specs.hasSlot (fun spec => spec) holds
    exact ⟨_, ending, _, by simp, tagged, .types keyword opener slot closer⟩
  | other => simp at same

theorem Decls.hasSlot (derives : Decls tokens (before ++ plug tag :: after)) :
    HasSlot DeclsSlot tokens (fun tag => before ++ plug tag :: after) tag := by
  generalize same : before ++ plug tag :: after = decls at derives
  induction derives generalizing before with
  | none => simp at same
  | @more blank own ending rest decls later blanks derived ended laterDerived ih =>
    have inLater : ∀ front, before = decls ++ front → front ++ plug tag :: after = later →
        HasSlot DeclsSlot (blank ++ (own ++ (ending ++ rest))) (fun tag => before ++ plug tag :: after) tag := by
      rintro front rfl rfl
      obtain ⟨front, tagging, back, rfl, tagged, slot⟩ := ih rfl
      rw [List.append_assoc front] at ended
      have outer := DeclsSlot.later blanks derived (ended.restrict slot.front_ne_nil) slot
      simp only [← List.append_assoc decls] at outer
      exact ⟨_, tagging, back, by simp, tagged, outer⟩
    rcases List.append_eq_append_iff.1 same with ⟨between, rfl, whole⟩ | ⟨front, whole, same⟩
    · cases between with
      | nil => exact inLater [] (by simp) whole
      | cons first between =>
        obtain ⟨rfl, rfl⟩ := List.cons.inj whole
        obtain ⟨front, tagging, back, rfl, tagged, slot⟩ := derived.hasSlot holds
        have outer := DeclsSlot.here blanks slot ended laterDerived
        simp only [List.append_assoc, List.cons_append] at outer
        exact ⟨_, tagging, _, by simp, tagged, outer⟩
    · exact inLater front whole same.symm

end

theorem File.hasSlot {tokens : List Token} {plug : Option String → SourceFile} {tag : Option String}
    (slot : SourceFile.TagSlot plug) (derives : File tokens (plug tag)) : HasSlot FileSlot tokens plug tag := by
  cases slot with
  | @intro package name before after position isAlias inner slot =>
    cases derives with
    | @intro blank ending rest keyword name' _ blanks spelled identifier ended decls =>
      have found := @Decls.hasSlot _ before after (fun tag => ⟨name, position, isAlias, inner tag⟩) tag
        (fun spec => spec.hasSlot slot) decls
      obtain ⟨front, tagging, back, rfl, tagged, declsSlot⟩ := found
      rw [List.append_assoc front] at ended
      have outer := FileSlot.intro blanks spelled identifier (ended.restrict declsSlot.front_ne_nil) declsSlot
      exact ⟨_, tagging, back, by simp, tagged, outer⟩

theorem FileSlot.back_concat {plug : Option String → SourceFile} (slot : FileSlot front back plug) :
    ∃ middle last, back = middle ++ [last] := by
  cases slot with
  | intro _ _ _ _ slot => exact slot.back_concat

end

end Grammar

end GoDto
