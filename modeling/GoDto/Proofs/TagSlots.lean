import GoDto.Proofs.Grammar

/-!
Slots for tags. A slot is where the tag of some field stands in the tokens of a phrase, or might stand
behind the type of a field without one. It is given by the tokens in front of it and behind it, and by
the tree for each tag. A slot may lie in a part of a type that the tree does not keep, but not in
brackets that are passed over unread.
-/

namespace GoDto.Grammar

section
variable {α : Type} (Item : List Token → α → Prop)
  (Slot : List Token → List Token → (Option String → α) → Prop)

/-- One of several items has the slot. -/
inductive ItemsSlot : List Token → List Token → (Option String → List α) → Prop where
  | last {blank front back : List Token} {plug : Option String → α} : Semicolons blank →
      Slot front back plug → ItemsSlot (blank ++ front) back fun tag => [plug tag]
  | here {blank front back rest : List Token} {semicolon : Token} {plug : Option String → α}
      {later : List α} : Semicolons blank → Slot front back plug → semicolon.kind = .semicolon →
      Items Item rest later →
      ItemsSlot (blank ++ front) (back ++ semicolon :: rest) fun tag => plug tag :: later
  | later {blank own front back : List Token} {semicolon : Token} {value : α}
      {plug : Option String → List α} : Semicolons blank → Item own value →
      semicolon.kind = .semicolon → ItemsSlot front back plug →
      ItemsSlot (blank ++ own ++ semicolon :: front) back fun tag => value :: plug tag

end

section
variable (Inner : List Token → GoType → Prop)
  (Slot : List Token → List Token → (Option String → GoType) → Prop)

/-- One of several type arguments has the slot. Only their number is kept. -/
inductive ArgumentsSlot : List Token → List Token → Nat → Prop where
  | last {front back : List Token} {plug : Option String → GoType} : Slot front back plug →
      ArgumentsSlot front back 1
  | here {front back rest : List Token} {comma : Token} {plug : Option String → GoType} {count : Nat} :
      Slot front back plug → comma.IsOperator "," → Arguments Inner rest count →
      ArgumentsSlot front (back ++ comma :: rest) (count + 1)
  | later {own front back : List Token} {comma : Token} {type : GoType} {count : Nat} :
      Inner own type → comma.IsOperator "," → ArgumentsSlot front back count →
      ArgumentsSlot (own ++ comma :: front) back (count + 1)

/-- The type of a field has the slot. -/
inductive FieldPartsSlot :
    List Token → List Token → List String → (Option String → GoType) → Prop where
  | pointer {star : Token} {front back : List Token} {plug : Option String → GoType} :
      star.IsOperator "*" → Slot front back plug →
      FieldPartsSlot (star :: front) back [] fun tag => .pointer (plug tag)
  | embedded {first : Token} {front back : List Token} {plug : Option String → GoType} :
      first.kind = .identifier → Slot (first :: front) back plug →
      FieldPartsSlot (first :: front) back [] plug
  | named {own front back : List Token} {names : List String} {plug : Option String → GoType} :
      Names own names → Slot front back plug → FieldPartsSlot (own ++ front) back names plug

/-- The slot is that of the field itself, or one in its type. -/
inductive FieldSlot :
    List Token → List Token → (Option String → FieldDecl GoType) → Prop where
  | own {first : Token} {rest : List Token} {names : List String} {type : GoType} :
      FieldParts Inner (first :: rest) names type →
      FieldSlot (first :: rest) [] fun tag => ⟨names, first.position, type, tag⟩
  | inside {first : Token} {front back ending : List Token} {names : List String}
      {plug : Option String → GoType} {own : Option String} :
      FieldPartsSlot Slot (first :: front) back names plug → Tag ending own →
      FieldSlot (first :: front) (back ++ ending) fun tag => ⟨names, first.position, plug tag, own⟩

/-- A slot in a type lies in one of the types inside it, or belongs to a field of a struct. -/
inductive TypeRuleSlot :
    List Token → List Token → (Option String → GoType) → Prop where
  | generic {own front back : List Token} {opener closer : Token} {type : GoType} {count : Nat} :
      Name own type → opener.IsOperator "[" → ArgumentsSlot Inner Slot front back count →
      closer.IsOperator "]" →
      TypeRuleSlot (own ++ opener :: front) (back ++ [closer]) fun _ =>
        .outline (if count = 1 then .instanceOfOne else .instanceOfMany)
  | pointer {star : Token} {front back : List Token} {plug : Option String → GoType} :
      star.IsOperator "*" → Slot front back plug →
      TypeRuleSlot (star :: front) back fun tag => .pointer (plug tag)
  | sequence {opener : Token} {length front back : List Token} {plug : Option String → GoType} :
      opener.IsOperator "[" → Group opener length → Slot front back plug →
      TypeRuleSlot (length ++ front) back fun tag => .sequence (plug tag)
  | parenthesized {opener closer : Token} {front back : List Token} {plug : Option String → GoType} :
      opener.IsOperator "(" → Slot front back plug → closer.IsOperator ")" →
      TypeRuleSlot (opener :: front) (back ++ [closer]) fun _ => .outline .parenthesized
  | receiver {arrow keyword : Token} {front back : List Token} {plug : Option String → GoType} :
      arrow.IsOperator "<-" → keyword.IsKeyword "chan" → Slot front back plug →
      TypeRuleSlot (arrow :: keyword :: front) back fun _ => .outline .channel
  | channel {keyword : Token} {front back : List Token} {plug : Option String → GoType} :
      keyword.IsKeyword "chan" → Slot front back plug →
      TypeRuleSlot (keyword :: front) back fun _ => .outline .channel
  | sender {keyword arrow : Token} {front back : List Token} {plug : Option String → GoType} :
      keyword.IsKeyword "chan" → arrow.IsOperator "<-" → Slot front back plug →
      TypeRuleSlot (keyword :: arrow :: front) back fun _ => .outline .channel
  | key {keyword opener closer : Token} {front back rest : List Token} {plug : Option String → GoType}
      {type : GoType} : keyword.IsKeyword "map" → opener.IsOperator "[" → Slot front back plug →
      closer.IsOperator "]" → Inner rest type →
      TypeRuleSlot (keyword :: opener :: front) (back ++ closer :: rest) fun _ => .outline .map
  | element {keyword opener closer : Token} {key front back : List Token} {keyType : GoType}
      {plug : Option String → GoType} : keyword.IsKeyword "map" → opener.IsOperator "[" →
      Inner key keyType → closer.IsOperator "]" → Slot front back plug →
      TypeRuleSlot (keyword :: opener :: (key ++ closer :: front)) back fun _ => .outline .map
  | result {keyword opener : Token} {parameters front back : List Token}
      {plug : Option String → GoType} : keyword.IsKeyword "func" → opener.IsOperator "(" →
      Group opener parameters → Slot front back plug →
      TypeRuleSlot (keyword :: (parameters ++ front)) back fun _ => .outline .function
  | struct {keyword opener closer : Token} {front back : List Token}
      {plug : Option String → List (FieldDecl GoType)} : keyword.IsKeyword "struct" →
      opener.IsOperator Token.leftBrace →
      ItemsSlot (Field Inner) (FieldSlot Inner Slot) front back plug →
      closer.IsOperator Token.rightBrace →
      TypeRuleSlot (keyword :: opener :: front) (back ++ [closer]) fun tag => .struct (plug tag)

end

inductive TypeSlot : List Token → List Token → (Option String → GoType) → Prop where
  | intro {front back : List Token} {plug : Option String → GoType} :
      TypeRuleSlot TypeOf TypeSlot front back plug → TypeSlot front back plug

/-- What holds of a slot if it holds of it in the types inside holds of every slot in a type. -/
theorem TypeSlot.induction {Holds : List Token → List Token → (Option String → GoType) → Prop}
    (step : ∀ front back plug,
      TypeRuleSlot TypeOf (fun front back plug => TypeSlot front back plug ∧ Holds front back plug)
        front back plug → Holds front back plug)
    {front back : List Token} {plug : Option String → GoType} (slot : TypeSlot front back plug) :
    Holds front back plug := by
  let Known : List Token → List Token → (Option String → GoType) → Prop :=
    fun front back plug => TypeSlot front back plug ∧ Holds front back plug
  exact @TypeSlot.rec (fun front back plug _ => Holds front back plug)
    (fun front back plug _ => TypeRuleSlot TypeOf Known front back plug)
    (fun front back count _ => ArgumentsSlot TypeOf Known front back count)
    (fun front back plug _ => ItemsSlot (Field TypeOf) (FieldSlot TypeOf Known) front back plug)
    (fun front back plug _ => FieldSlot TypeOf Known front back plug)
    (fun front back names plug _ => FieldPartsSlot Known front back names plug)
    (fun _ rule => step _ _ _ rule)
    (fun name opener _ closer arguments => .generic name opener arguments closer)
    (fun star slot holds => .pointer star ⟨slot, holds⟩)
    (fun opener length slot holds => .sequence opener length ⟨slot, holds⟩)
    (fun opener slot closer holds => .parenthesized opener ⟨slot, holds⟩ closer)
    (fun arrow keyword slot holds => .receiver arrow keyword ⟨slot, holds⟩)
    (fun keyword slot holds => .channel keyword ⟨slot, holds⟩)
    (fun keyword arrow slot holds => .sender keyword arrow ⟨slot, holds⟩)
    (fun keyword opener slot closer derives holds => .key keyword opener ⟨slot, holds⟩ closer derives)
    (fun keyword opener key closer slot holds => .element keyword opener key closer ⟨slot, holds⟩)
    (fun keyword opener parameters slot holds => .result keyword opener parameters ⟨slot, holds⟩)
    (fun keyword opener _ closer fields => .struct keyword opener fields closer)
    (fun slot holds => .last ⟨slot, holds⟩)
    (fun slot comma rest holds => .here ⟨slot, holds⟩ comma rest)
    (fun own comma _ later => .later own comma later)
    (fun blank _ field => .last blank field)
    (fun blank _ semicolon rest field => .here blank field semicolon rest)
    (fun blank own semicolon _ later => .later blank own semicolon later)
    (fun parts => .own parts)
    (fun _ tag parts => .inside parts tag)
    (fun star slot holds => .pointer star ⟨slot, holds⟩)
    (fun first slot holds => .embedded first ⟨slot, holds⟩)
    (fun names slot holds => .named names ⟨slot, holds⟩)
    front back plug slot

/-- Where type parameters might start is decided in front of a slot. -/
inductive SpecSlot : List Token → List Token → (Option String → TypeDecl) → Prop where
  | intro {name : Token} {parameters sign front back : List Token} {isAlias : Bool}
      {plug : Option String → GoType} : name.kind = .identifier → Parameters parameters (sign ++ front) →
      Alias sign isAlias → TypeSlot front back plug →
      SpecSlot (name :: (parameters ++ (sign ++ front))) back fun tag =>
        ⟨name.text, name.position, isAlias, plug tag⟩

inductive DeclSlot : List Token → List Token → (Option String → List TypeDecl) → Prop where
  | type {keyword : Token} {front back : List Token} {plug : Option String → TypeDecl} :
      keyword.IsKeyword "type" → SpecSlot front back plug →
      DeclSlot (keyword :: front) back fun tag => [plug tag]
  | types {keyword opener closer : Token} {front back : List Token}
      {plug : Option String → List TypeDecl} : keyword.IsKeyword "type" → opener.IsOperator "(" →
      ItemsSlot Spec SpecSlot front back plug → closer.IsOperator ")" →
      DeclSlot (keyword :: opener :: front) (back ++ [closer]) plug

inductive DeclsSlot : List Token → List Token → (Option String → List TypeDecl) → Prop where
  | here {blank front back ending rest : List Token} {plug : Option String → List TypeDecl}
      {later : List TypeDecl} : Semicolons blank → DeclSlot front back plug → Ending ending rest →
      Decls rest later →
      DeclsSlot (blank ++ front) (back ++ (ending ++ rest)) fun tag => plug tag ++ later
  | later {blank own ending front back : List Token} {decls : List TypeDecl}
      {plug : Option String → List TypeDecl} : Semicolons blank → Decl own decls →
      Ending ending front → DeclsSlot front back plug →
      DeclsSlot (blank ++ (own ++ (ending ++ front))) back fun tag => decls ++ plug tag

inductive FileSlot : List Token → List Token → (Option String → SourceFile) → Prop where
  | intro {blank ending front back : List Token} {keyword name : Token}
      {plug : Option String → List TypeDecl} : Semicolons blank → keyword.IsKeyword "package" →
      name.kind = .identifier → Ending ending front → DeclsSlot front back plug →
      FileSlot (blank ++ keyword :: name :: (ending ++ front)) back fun tag => ⟨name.text, plug tag⟩

section
variable {α : Type} {Item : List Token → α → Prop}
  {ItemSlot : List Token → List Token → (Option String → α) → Prop}
  {Slot : List Token → List Token → (Option String → GoType) → Prop}
  {front back ending : List Token} {tag : Option String}

/-- A phrase is derived with the tag in its slot if the phrase inside it is. -/
theorem ItemsSlot.fill {plug : Option String → List α}
    (fills : ∀ {front back plug}, ItemSlot front back plug → Item (front ++ ending ++ back) (plug tag))
    (slot : ItemsSlot Item ItemSlot front back plug) : Items Item (front ++ ending ++ back) (plug tag) := by
  induction slot with
  | last blank slot => simpa using Items.last blank (fills slot)
  | here blank slot semicolon rest => simpa using Items.more blank (fills slot) semicolon rest
  | later blank own semicolon _ ih => simpa using Items.more blank own semicolon ih

section
variable (fills : ∀ {front back plug}, Slot front back plug → TypeOf (front ++ ending ++ back) (plug tag))
include fills

theorem ArgumentsSlot.fill {count : Nat} (slot : ArgumentsSlot TypeOf Slot front back count) :
    Arguments TypeOf (front ++ ending ++ back) count := by
  induction slot with
  | last slot => exact .last (fills slot)
  | here slot comma rest => simpa using Arguments.more (fills slot) comma rest
  | later own comma _ ih => simpa using Arguments.more own comma ih

theorem FieldPartsSlot.fill {first : Token} {names : List String} {plug : Option String → GoType}
    (slot : FieldPartsSlot Slot (first :: front) back names plug) :
    FieldParts TypeOf (first :: (front ++ ending ++ back)) names (plug tag) := by
  generalize whole : first :: front = tokens at slot
  cases slot with
  | pointer star slot =>
    cases whole
    exact .pointer star (fills slot)
  | embedded identifier slot =>
    cases whole
    exact .embedded identifier (fills slot)
  | named names slot =>
    have parts := FieldParts.named names (fills slot)
    rw [← List.append_assoc, ← List.append_assoc, ← whole] at parts
    simpa using parts

theorem FieldSlot.fill {plug : Option String → FieldDecl GoType} (tagged : Tag ending tag)
    (slot : FieldSlot TypeOf Slot front back plug) :
    Field TypeOf (front ++ ending ++ back) (plug tag) := by
  cases slot with
  | own parts => simpa using Field.intro parts tagged
  | inside slot own => simpa using Field.intro (slot.fill fills) own

theorem TypeRuleSlot.fill {plug : Option String → GoType} (tagged : Tag ending tag)
    (slot : TypeRuleSlot TypeOf Slot front back plug) :
    TypeRule TypeOf (front ++ ending ++ back) (plug tag) := by
  cases slot with
  | generic name opener arguments closer =>
    simpa using TypeRule.generic name opener (arguments.fill fills) closer
  | pointer star slot => exact .pointer star (fills slot)
  | sequence opener length slot => simpa using TypeRule.sequence opener length (fills slot)
  | parenthesized opener slot closer => simpa using TypeRule.parenthesized opener (fills slot) closer
  | receiver arrow keyword slot => exact .receiver arrow keyword (fills slot)
  | channel keyword slot => exact .channel keyword (fills slot)
  | sender keyword arrow slot => exact .sender keyword arrow (fills slot)
  | key keyword opener slot closer element =>
    simpa using TypeRule.map keyword opener (fills slot) closer element
  | element keyword opener key closer slot =>
    simpa using TypeRule.map keyword opener key closer (fills slot)
  | result keyword opener parameters slot =>
    simpa using TypeRule.function keyword opener parameters (.type (fills slot))
  | struct keyword opener fields closer =>
    have filled := fields.fill fun slot => slot.fill fills tagged
    simpa using TypeRule.struct keyword opener filled closer

end

theorem TypeSlot.fill {plug : Option String → GoType} (slot : TypeSlot front back plug)
    (tagged : Tag ending tag) : TypeOf (front ++ ending ++ back) (plug tag) := by
  refine @TypeSlot.induction (fun front back plug => TypeOf (front ++ ending ++ back) (plug tag)) ?_
    front back plug slot
  intro front back plug rule
  exact .intro (rule.fill (fun known => known.2) tagged)

section
variable {Inner : List Token → GoType → Prop} {least : Nat}

theorem ArgumentsSlot.le_length {count : Nat}
    (long : ∀ {front back plug}, Slot front back plug → least ≤ front.length)
    (slot : ArgumentsSlot Inner Slot front back count) : least ≤ front.length := by
  induction slot with
  | last slot => exact long slot
  | here slot => exact long slot
  | later _ _ _ ih =>
    rw [List.length_append, List.length_cons]
    omega

theorem ItemsSlot.le_length {plug : Option String → List α}
    (long : ∀ {front back plug}, ItemSlot front back plug → least ≤ front.length)
    (slot : ItemsSlot Item ItemSlot front back plug) : least ≤ front.length := by
  induction slot with
  | last _ slot | here _ slot =>
    have inner := long slot
    rw [List.length_append]
    omega
  | later _ _ _ _ ih =>
    rw [List.length_append, List.length_cons]
    omega

theorem FieldSlot.one_le {plug : Option String → FieldDecl GoType} (slot : FieldSlot Inner Slot front back plug) :
    1 ≤ front.length := by
  cases slot <;> simp

end

/-- At least `struct`, a brace and the start of a field stand in front of a slot. -/
theorem TypeSlot.three_le {plug : Option String → GoType} (slot : TypeSlot front back plug) :
    3 ≤ front.length := by
  refine @TypeSlot.induction (fun front _ _ => 3 ≤ front.length) ?_ front back plug slot
  intro front back plug rule
  cases rule with
  | generic _ _ arguments _ =>
    have long := arguments.le_length fun known => known.2
    rw [List.length_append, List.length_cons]
    omega
  | struct _ _ fields _ =>
    have long := fields.le_length FieldSlot.one_le
    rw [List.length_cons, List.length_cons]
    omega
  | pointer _ known | sequence _ _ known | parenthesized _ known | receiver _ _ known | channel _ known
  | sender _ _ known | key _ _ known | element _ _ _ _ known | result _ _ _ known =>
    have long := known.2
    simp only [List.length_append, List.length_cons]
    omega

theorem StartsParameters.of_append {tokens later : List Token} (long : 3 ≤ tokens.length)
    (starts : StartsParameters (tokens ++ later)) : StartsParameters tokens := by
  obtain ⟨opener, parameter, next, rest, same, parts⟩ := starts
  rcases tokens with _ | ⟨first, _ | ⟨second, _ | ⟨third, tokens⟩⟩⟩
  · simp at long
  · simp at long
  · simp at long
  · obtain ⟨rfl, rfl, rfl, -⟩ : first = opener ∧ second = parameter ∧ third = next ∧ tokens ++ later = rest := by
      simpa using same
    exact ⟨first, second, third, tokens, rfl, parts⟩

/-- Type parameters do not depend on what stands behind the first three tokens. -/
theorem Parameters.extend {own rest : List Token} (parameters : Parameters own rest) (long : 3 ≤ rest.length)
    (later : List Token) : Parameters own (rest ++ later) := by
  cases parameters with
  | none absent => exact .none fun starts => absent (starts.of_append long)
  | group opens enclosed starts => exact .group opens enclosed starts

theorem Ending.extend {own rest : List Token} (ended : Ending own rest) (later : List Token) :
    Ending own (rest ++ later) := by
  cases ended with
  | semicolon kind => exact .semicolon kind
  | endOfFile kind => exact .endOfFile kind

theorem Ending.restrict {own rest later : List Token} (ended : Ending own (rest ++ later))
    (nonempty : rest ≠ []) : Ending own rest := by
  generalize whole : rest ++ later = tokens at ended
  cases ended with
  | semicolon kind => exact .semicolon kind
  | endOfFile kind =>
    cases rest with
    | nil => exact absurd rfl nonempty
    | cons first rest =>
      obtain ⟨rfl, -⟩ := List.cons.inj whole
      exact .endOfFile kind

theorem SpecSlot.fill {plug : Option String → TypeDecl} (slot : SpecSlot front back plug)
    (tagged : Tag ending tag) : Spec (front ++ ending ++ back) (plug tag) := by
  obtain @⟨name, parameters, sign, front, back, isAlias, plug, identifier, listed, marked, slot⟩ := slot
  have long : 3 ≤ (sign ++ front).length := by
    have inner := slot.three_le
    rw [List.length_append]
    omega
  have extended := listed.extend long (ending ++ back)
  rw [List.append_assoc] at extended
  have filled := slot.fill tagged
  rw [List.append_assoc] at filled
  simpa using Spec.intro identifier extended marked filled

theorem DeclSlot.fill {plug : Option String → List TypeDecl} (slot : DeclSlot front back plug)
    (tagged : Tag ending tag) : Decl (front ++ ending ++ back) (plug tag) := by
  cases slot with
  | type keyword slot => exact .type keyword (slot.fill tagged)
  | types keyword opener specs closer =>
    have filled := specs.fill fun slot => slot.fill tagged
    simpa using Decl.types keyword opener filled closer

theorem DeclsSlot.fill {plug : Option String → List TypeDecl} (slot : DeclsSlot front back plug)
    (tagged : Tag ending tag) : Decls (front ++ ending ++ back) (plug tag) := by
  induction slot with
  | here blank slot ended later => simpa using Decls.more blank (slot.fill tagged) ended later
  | @later blank own close front back decls plug blanks derived ended _ ih =>
    have extended := ended.extend (ending ++ back)
    rw [List.append_assoc] at ih
    simpa using Decls.more blanks derived extended ih

/-- A file is derived with any tag in a slot. -/
theorem FileSlot.fill {plug : Option String → SourceFile} (slot : FileSlot front back plug)
    (tagged : Tag ending tag) : File (front ++ ending ++ back) (plug tag) := by
  obtain @⟨blank, close, front, back, keyword, name, plug, blanks, package, identifier, ended, slot⟩ := slot
  have extended := ended.extend (ending ++ back)
  have filled := slot.fill tagged
  rw [List.append_assoc] at filled
  simpa using File.intro blanks package identifier extended filled

end

end GoDto.Grammar
