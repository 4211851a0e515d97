import GoDto.Proofs.ProperTokens
import GoDto.Syntax.File
import Mathlib.Data.List.Forall2

/-!
Two readings of token lists that correspond, token by token. What a reader does is decided by the
kinds of the tokens and by the operators and keywords among them. So the readings come to
corresponding ends: to trees of one shape, or to the same error about corresponding tokens.
-/

namespace GoDto

namespace Token

/-- Operators and keywords, but for the semicolon, which is told by its kind -/
def spellings : List String := Lexeme.operators.filter (· != ";") ++ keywords

/-- Two tokens of one kind that no test on operators or keywords tells apart -/
structure Alike (token other : Token) : Prop where
  kind : token.kind = other.kind
  text : token.kind = .operator ∨ token.kind = .keyword → token.text = other.text
  spelled : ∀ text ∈ spellings, token.is text = other.is text

variable {token other : Token}

theorem Alike.is (alike : token.Alike other) {text : String} (listed : text ∈ spellings) :
    token.is text = other.is text :=
  alike.spelled text listed

theorem Alike.opens (alike : token.Alike other) : token.opens = other.opens := by
  unfold Token.opens
  rw [← alike.kind]
  by_cases operator : token.kind = .operator
  · rw [alike.text (.inl operator)]
  · rw [beq_eq_false_iff_ne.2 operator, Bool.false_and, Bool.false_and]

theorem Alike.closes (alike : token.Alike other) : token.closes = other.closes := by
  unfold Token.closes
  rw [← alike.kind]
  by_cases operator : token.kind = .operator
  · rw [alike.text (.inl operator)]
  · rw [beq_eq_false_iff_ne.2 operator, Bool.false_and, Bool.false_and]

theorem Alike.isLiteralString (alike : token.Alike other) :
    token.isLiteralString = other.isLiteralString := by
  unfold Token.isLiteralString
  rw [alike.kind]

theorem Alike.endsField (alike : token.Alike other) : token.endsField = other.endsField := by
  unfold Token.endsField
  rw [alike.is (by decide), alike.kind, alike.isLiteralString]

theorem Alike.typeHead (alike : token.Alike other) :
    TypeHead.ofToken? token = TypeHead.ofToken? other := by
  unfold TypeHead.ofToken?
  rw [← alike.kind]
  cases kind : token.kind with
  | operator => rw [alike.text (.inl kind)]
  | keyword => rw [alike.text (.inr kind)]
  | _ => rfl

theorem Alike.declHead (alike : token.Alike other) :
    DeclHead.ofToken? token = DeclHead.ofToken? other := by
  unfold DeclHead.ofToken?
  rw [← alike.kind]
  by_cases keyword : token.kind = .keyword
  · rw [alike.text (.inr keyword)]
  · simp [keyword]

theorem Alike.followsTypeParameter (alike : token.Alike other) :
    token.followsTypeParameter = other.followsTypeParameter := by
  unfold Token.followsTypeParameter
  rw [← alike.kind]
  cases kind : token.kind with
  | operator => rw [alike.text (.inl kind)]
  | keyword => rw [alike.text (.inr kind)]
  | _ => rfl

end Token

variable {α α' β β' : Type} {R : Token → Token → Prop}

/-- Errors of one form about corresponding tokens -/
inductive SyntaxError.Corresponds (R : Token → Token → Prop) : SyntaxError → SyntaxError → Prop where
  | expected (what : Expectation) {found other : Token} : R found other →
      Corresponds R (.expected what found) (.expected what other)
  | unexpected {found other : Token} : R found other →
      Corresponds R (.unexpected found) (.unexpected other)
  | unclosed {opener other : Token} : R opener other →
      Corresponds R (.unclosed opener) (.unclosed other)

inductive Outcome.Corresponds (R : Token → Token → Prop) (V : α → β → Prop) :
    Outcome α → Outcome β → Prop where
  | done {value : α} {other : β} {left left' : List Token} : V value other →
      List.Forall₂ R left left' → Corresponds R V (.done value left) (.done other left')
  | failed {error other : SyntaxError} : error.Corresponds R other →
      Corresponds R V (.failed error) (.failed other)
  | exhausted : Corresponds R V .exhausted .exhausted

/-- Two texts that corresponding tokens have -/
def SameText (R : Token → Token → Prop) (text other : String) : Prop :=
  ∃ token token', R token token' ∧ token.text = text ∧ token'.text = other

/-- Two places where corresponding tokens stand -/
def SamePlace (R : Token → Token → Prop) (position other : Position) : Prop :=
  ∃ token token', R token token' ∧ token.position = position ∧ token'.position = other

inductive FieldDecl.Corresponds {Expr : Type} (R : Token → Token → Prop) (V : Expr → Expr → Prop) :
    FieldDecl Expr → FieldDecl Expr → Prop where
  | intro {names names' : List String} {position position' : Position} {type type' : Expr}
      {tag tag' : Option String} : List.Forall₂ (SameText R) names names' →
      SamePlace R position position' → V type type' → Option.Rel (SameText R) tag tag' →
      Corresponds R V ⟨names, position, type, tag⟩ ⟨names', position', type', tag'⟩

/-- Types of one shape whose names, places and tags are those of corresponding tokens -/
inductive GoType.Corresponds (R : Token → Token → Prop) : GoType → GoType → Prop where
  | name {text other : String} : SameText R text other → Corresponds R (.name text) (.name other)
  | qualified {base base' : GoType} {text other : String} : Corresponds R base base' →
      SameText R text other → Corresponds R (.qualified base text) (.qualified base' other)
  | pointer {element other : GoType} : Corresponds R element other →
      Corresponds R (.pointer element) (.pointer other)
  | sequence {element other : GoType} : Corresponds R element other →
      Corresponds R (.sequence element) (.sequence other)
  | struct {fields others : List (FieldDecl GoType)} :
      List.Forall₂ (FieldDecl.Corresponds R (Corresponds R)) fields others →
      Corresponds R (.struct fields) (.struct others)
  | outline (shape : Shape) : Corresponds R (.outline shape) (.outline shape)

inductive TypeDecl.Corresponds (R : Token → Token → Prop) : TypeDecl → TypeDecl → Prop where
  | intro {name name' : String} {position position' : Position} (isAlias : Bool)
      {type type' : GoType} : SameText R name name' → SamePlace R position position' →
      type.Corresponds R type' →
      Corresponds R ⟨name, position, isAlias, type⟩ ⟨name', position', isAlias, type'⟩

inductive SourceFile.Corresponds (R : Token → Token → Prop) : SourceFile → SourceFile → Prop where
  | intro {package package' : String} {decls decls' : List TypeDecl} : SameText R package package' →
      List.Forall₂ (TypeDecl.Corresponds R) decls decls' →
      Corresponds R ⟨package, decls⟩ ⟨package', decls'⟩

namespace Reader

/-- The two readers come to corresponding ends on corresponding tokens. -/
def Corresponds (R : Token → Token → Prop) (V : α → α' → Prop) (reader : Reader α)
    (other : Reader α') : Prop :=
  ∀ final final' rest rest', R final final' → List.Forall₂ R rest rest' →
    (reader final rest).Corresponds R V (other final' rest')

variable {V : α → α' → Prop} {W : β → β' → Prop}

theorem corresponds_bind {first : Reader α} {first' : Reader α'} {second : α → Reader β}
    {second' : α' → Reader β'} (corresponds : first.Corresponds R V first')
    (later : ∀ value value', V value value' → (second value).Corresponds R W (second' value')) :
    (first >>= second).Corresponds R W (first' >>= second') := by
  intro final final' rest rest' same related
  change (andThen first second final rest).Corresponds R W (andThen first' second' final' rest')
  unfold andThen
  have ends := corresponds final final' rest rest' same related
  generalize first final rest = outcome at ends ⊢
  generalize first' final' rest' = outcome' at ends ⊢
  cases ends with
  | done values left => exact later _ _ values _ _ _ _ same left
  | failed errors => exact .failed errors
  | exhausted => exact .exhausted

theorem corresponds_pure {value : α} {value' : α'} (values : V value value') :
    (pure value : Reader α).Corresponds R V (pure value') :=
  fun _ _ _ _ _ related => .done values related

/-- Two readers that make a choice which comes out the same -/
theorem corresponds_ite {test test' : Prop} [Decidable test] [Decidable test'] {first second : Reader α}
    {first' second' : Reader α'} (same : test ↔ test') (holds : first.Corresponds R V first')
    (fails : second.Corresponds R V second') :
    (if test then first else second).Corresponds R V (if test' then first' else second') := by
  by_cases passes : test
  · rw [if_pos passes, if_pos (same.1 passes)]
    exact holds
  · rw [if_neg passes, if_neg fun passed => passes (same.2 passed)]
    exact fails

theorem forall₂_drop {count : Nat} {rest rest' : List Token} (related : List.Forall₂ R rest rest') :
    List.Forall₂ R (rest.drop count) (rest'.drop count) := by
  induction related generalizing count with
  | nil => simp
  | cons same related ih =>
    cases count with
    | zero => exact .cons same related
    | succ count => exact ih

theorem forall₂_headD {final final' : Token} {rest rest' : List Token} (same : R final final')
    (related : List.Forall₂ R rest rest') : R (rest.headD final) (rest'.headD final') := by
  cases related with
  | nil => exact same
  | cons first _ => exact first

theorem corresponds_lookahead (count : Nat) :
    (lookahead count).Corresponds R R (lookahead count) :=
  fun _ _ _ _ same related => .done (forall₂_headD same (forall₂_drop related)) related

theorem corresponds_current : current.Corresponds R R current := corresponds_lookahead 0

theorem corresponds_step : step.Corresponds R (fun _ _ => True) step := by
  intro final final' rest rest' _ related
  refine .done trivial ?_
  cases related with
  | nil => exact .nil
  | cons _ related => exact related

theorem corresponds_expected (what : Expectation) :
    (expected what : Reader α).Corresponds R V (expected what : Reader α') :=
  fun _ _ _ _ same related => .failed (.expected what (forall₂_headD same related))

theorem corresponds_unexpected :
    (unexpected : Reader α).Corresponds R V (unexpected : Reader α') :=
  fun _ _ _ _ same related => .failed (.unexpected (forall₂_headD same related))

section
variable (alike : ∀ token other, R token other → token.Alike other)
include alike

theorem corresponds_accept {spelling : String} (listed : spelling ∈ Token.spellings) :
    (accept spelling).Corresponds R Eq (accept spelling) := by
  refine corresponds_bind corresponds_current fun token other same => ?_
  refine corresponds_ite (by rw [(alike _ _ same).is listed]) ?_ (corresponds_pure rfl)
  exact corresponds_bind corresponds_step fun _ _ _ => corresponds_pure rfl

theorem corresponds_require {spelling : String} (listed : spelling ∈ Token.spellings) :
    (require spelling).Corresponds R (fun _ _ => True) (require spelling) := by
  apply corresponds_bind (corresponds_accept alike listed)
  rintro accepted _ rfl
  exact corresponds_ite .rfl (corresponds_pure trivial) (corresponds_expected _)

theorem corresponds_identifier : identifier.Corresponds R R identifier := by
  refine corresponds_bind corresponds_current fun token other same => ?_
  refine corresponds_ite (by rw [(alike _ _ same).kind]) ?_ (corresponds_expected _)
  exact corresponds_bind corresponds_step fun _ _ _ => corresponds_pure same

theorem corresponds_acceptSemicolon : acceptSemicolon.Corresponds R Eq acceptSemicolon := by
  refine corresponds_bind corresponds_current fun token other same => ?_
  refine corresponds_ite (by rw [(alike _ _ same).kind]) ?_ (corresponds_pure rfl)
  exact corresponds_bind corresponds_step fun _ _ _ => corresponds_pure rfl

theorem corresponds_atEnd : atEnd.Corresponds R Eq atEnd := by
  refine corresponds_bind corresponds_current fun token other same => ?_
  exact corresponds_pure (by rw [(alike _ _ same).kind])

theorem corresponds_semicolons : semicolons.Corresponds R (fun _ _ => True) semicolons := by
  intro final final' rest rest' _ related
  refine .done trivial ?_
  induction related with
  | nil => exact .nil
  | @cons token other rest rest' same related ih =>
    have kinds := (alike _ _ same).kind
    by_cases semicolon : token.kind = .semicolon
    · rw [List.dropWhile_cons_of_pos (by simp [semicolon]),
        List.dropWhile_cons_of_pos (by simp [← kinds, semicolon])]
      exact ih
    · rw [List.dropWhile_cons_of_neg (by simp [semicolon]),
        List.dropWhile_cons_of_neg (by simp [← kinds, semicolon])]
      exact .cons same related

end

theorem corresponds_many {item : Reader (Option α)} {item' : Reader (Option α')}
    (corresponds : item.Corresponds R (Option.Rel V) item') :
    (many item).Corresponds R (List.Forall₂ V) (many item') := by
  have within : ∀ limit limit' : List Token, limit.length = limit'.length →
      (manyWithin item limit).Corresponds R (List.Forall₂ V) (manyWithin item' limit') := by
    intro limit
    induction limit with
    | nil =>
      intro limit' same
      obtain rfl := List.eq_nil_of_length_eq_zero same.symm
      exact fun _ _ _ _ _ _ => .exhausted
    | cons token limit ih =>
      intro limit' same
      obtain ⟨other, limit', rfl⟩ := List.exists_cons_of_length_eq_add_one same.symm
      refine corresponds_bind corresponds fun found found' values => ?_
      cases values with
      | none => exact corresponds_pure .nil
      | some values =>
        refine corresponds_bind (ih limit' (by simpa using same)) fun later later' others => ?_
        exact corresponds_pure (.cons values others)
  intro final final' rest rest' same related
  have lengths : (final :: rest).length = (final' :: rest').length := by
    simp [related.length_eq]
  exact within _ _ lengths final final' rest rest' same related

section
variable (alike : ∀ token other, R token other → token.Alike other) {close : String}
  (listed : close ∈ Token.spellings) {item : Reader α} {item' : Reader α'}
  (corresponds : item.Corresponds R V item')
include alike listed corresponds

theorem corresponds_semicolonList :
    (semicolonList close item).Corresponds R (List.Forall₂ V) (semicolonList close item') := by
  apply corresponds_many
  refine corresponds_bind (corresponds_semicolons alike) fun _ _ _ => ?_
  apply corresponds_bind (corresponds_accept alike listed)
  rintro closed _ rfl
  apply corresponds_ite .rfl (corresponds_pure .none)
  refine corresponds_bind corresponds fun value value' values => ?_
  apply corresponds_bind (corresponds_acceptSemicolon alike)
  rintro separated _ rfl
  apply corresponds_ite .rfl (corresponds_pure (.some values))
  refine corresponds_bind corresponds_current fun token other same => ?_
  exact corresponds_ite (by rw [(alike _ _ same).is listed]) (corresponds_pure (.some values))
    (corresponds_expected _)

theorem corresponds_commaList :
    (commaList close item).Corresponds R (List.Forall₂ V) (commaList close item') := by
  apply corresponds_many
  apply corresponds_bind (corresponds_accept alike listed)
  rintro closed _ rfl
  apply corresponds_ite .rfl (corresponds_pure .none)
  refine corresponds_bind corresponds fun value value' values => ?_
  apply corresponds_bind (corresponds_accept alike (by decide))
  rintro separated _ rfl
  apply corresponds_ite .rfl (corresponds_pure (.some values))
  refine corresponds_bind corresponds_current fun token other same => ?_
  exact corresponds_ite (by rw [(alike _ _ same).is listed]) (corresponds_pure (.some values))
    (corresponds_expected _)

end

section
variable (alike : ∀ token other, R token other → token.Alike other)
include alike

/-- The bracket that ends a group is found at the same place. -/
theorem forall₂_afterGroup {inner : Nat} {rest rest' : List Token} (related : List.Forall₂ R rest rest') :
    Option.Rel (List.Forall₂ R) (afterGroup inner rest) (afterGroup inner rest') := by
  induction related generalizing inner with
  | nil => exact .none
  | @cons token other rest rest' same related ih =>
    unfold afterGroup
    rw [← (alike _ _ same).kind, ← (alike _ _ same).opens, ← (alike _ _ same).closes]
    split
    · exact .none
    · split
      · exact ih
      · split
        · split
          · exact .some related
          · exact ih
        · exact ih

theorem tokenBehindGroup_corresponds {final final' : Token} {depth : Nat} {rest rest' : List Token}
    (same : R final final') (related : List.Forall₂ R rest rest') :
    R (tokenBehindGroup final depth rest) (tokenBehindGroup final' depth rest') := by
  induction related generalizing depth with
  | nil => exact same
  | @cons token other rest rest' first related ih =>
    unfold tokenBehindGroup
    rw [← (alike _ _ first).kind, ← (alike _ _ first).opens, ← (alike _ _ first).closes]
    split
    · exact first
    · split
      · exact ih
      · split
        · split
          · exact forall₂_headD same related
          · exact ih
        · exact ih

theorem corresponds_closeGroup {opener opener' : Token} (openers : R opener opener') :
    (closeGroup opener).Corresponds R (fun _ _ => True) (closeGroup opener') := by
  intro final final' rest rest' _ related
  unfold closeGroup
  have found : Option.Rel (List.Forall₂ R) (afterGroup 0 rest) (afterGroup 0 rest') :=
    forall₂_afterGroup alike related
  generalize afterGroup 0 rest = behind at found ⊢
  generalize afterGroup 0 rest' = behind' at found ⊢
  cases found with
  | none => exact .failed (.unclosed openers)
  | some related => exact .done trivial related

theorem corresponds_group : group.Corresponds R (fun _ _ => True) group := by
  refine corresponds_bind corresponds_current fun opener opener' openers => ?_
  refine corresponds_ite (by rw [(alike _ _ openers).opens]) ?_ corresponds_unexpected
  exact corresponds_bind corresponds_step fun _ _ _ => corresponds_closeGroup alike openers

theorem corresponds_groupOf {opening : String} (listed : opening ∈ Token.spellings) :
    (groupOf opening).Corresponds R (fun _ _ => True) (groupOf opening) := by
  refine corresponds_bind corresponds_current fun token other same => ?_
  exact corresponds_ite (by rw [(alike _ _ same).is listed]) (corresponds_group alike)
    corresponds_unexpected

theorem corresponds_lookBehindGroup (count : Nat) :
    (lookBehindGroup count).Corresponds R R (lookBehindGroup count) :=
  fun _ _ _ _ same related =>
    .done (tokenBehindGroup_corresponds alike same (forall₂_drop related)) related

end

section
variable (alike : ∀ token other, R token other → token.Alike other) {type type' : Reader GoType}
  (corresponds : type.Corresponds R (GoType.Corresponds R) type')
include alike

theorem corresponds_qualifiedName {first first' : Token} (same : R first first') :
    (qualifiedName first).Corresponds R (GoType.Corresponds R) (qualifiedName first') := by
  apply corresponds_bind (corresponds_accept alike (by decide))
  rintro dotted _ rfl
  have base : GoType.Corresponds R (.name first.text) (.name first'.text) := .name ⟨_, _, same, rfl, rfl⟩
  refine corresponds_ite .rfl ?_ (corresponds_pure base)
  refine corresponds_bind (corresponds_identifier alike) fun selected selected' names => ?_
  exact corresponds_pure (.qualified base ⟨_, _, names, rfl, rfl⟩)

include corresponds

theorem corresponds_typeArguments :
    (typeArguments type).Corresponds R Eq (typeArguments type') := by
  refine corresponds_bind (corresponds_require alike (by decide)) fun _ _ _ => ?_
  refine corresponds_bind (corresponds_commaList alike (by decide) corresponds) fun _ _ arguments => ?_
  exact corresponds_pure arguments.length_eq

theorem corresponds_namedType {first first' : Token} (same : R first first') :
    (namedType type first).Corresponds R (GoType.Corresponds R) (namedType type' first') := by
  refine corresponds_bind (corresponds_qualifiedName alike same) fun named named' names => ?_
  refine corresponds_bind corresponds_current fun token other next => ?_
  refine corresponds_ite (by rw [(alike _ _ next).is (by decide)]) ?_ (corresponds_pure names)
  apply corresponds_bind (corresponds_typeArguments alike corresponds)
  rintro count _ rfl
  exact corresponds_pure (.outline _)

theorem corresponds_signature : (signature type).Corresponds R (fun _ _ => True) (signature type') := by
  refine corresponds_bind (corresponds_groupOf alike (by decide)) fun _ _ _ => ?_
  refine corresponds_bind corresponds_current fun result result' same => ?_
  refine corresponds_ite (by rw [(alike _ _ same).is (by decide)]) (corresponds_group alike) ?_
  refine corresponds_ite (by rw [(alike _ _ same).typeHead]) ?_ (corresponds_pure trivial)
  exact corresponds_bind corresponds fun _ _ _ => corresponds_pure trivial

omit corresponds in
theorem corresponds_startsEmbedded : startsEmbedded.Corresponds R Eq startsEmbedded := by
  refine corresponds_bind (corresponds_lookahead 1) fun next next' same => ?_
  refine corresponds_ite (by rw [(alike _ _ same).is (by decide), (alike _ _ same).endsField])
    (corresponds_pure rfl) ?_
  refine corresponds_ite (by rw [(alike _ _ same).is (by decide)]) ?_ (corresponds_pure rfl)
  refine corresponds_bind (corresponds_lookBehindGroup alike 1) fun behind behind' last => ?_
  exact corresponds_pure (alike _ _ last).endsField

omit corresponds in
theorem corresponds_fieldNames :
    fieldNames.Corresponds R (List.Forall₂ (SameText R)) fieldNames := by
  have next : nextName.Corresponds R (Option.Rel (SameText R)) nextName := by
    apply corresponds_bind (corresponds_accept alike (by decide))
    rintro accepted _ rfl
    refine corresponds_ite .rfl ?_ (corresponds_pure .none)
    refine corresponds_bind (corresponds_identifier alike) fun name name' names => ?_
    exact corresponds_pure (.some ⟨_, _, names, rfl, rfl⟩)
  refine corresponds_bind (corresponds_identifier alike) fun first first' same => ?_
  refine corresponds_bind (corresponds_many next) fun later later' others => ?_
  exact corresponds_pure (.cons ⟨_, _, same, rfl, rfl⟩ others)

theorem corresponds_fieldParts {first first' : Token} (same : R first first') :
    (fieldParts type first).Corresponds R (fun parts parts' =>
      List.Forall₂ (SameText R) parts.1 parts'.1 ∧ GoType.Corresponds R parts.2 parts'.2)
      (fieldParts type' first') := by
  have kinds := (alike _ _ same).kind
  refine corresponds_ite (by rw [(alike _ _ same).is (by decide)]) ?_ ?_
  · refine corresponds_bind corresponds_step fun _ _ _ => ?_
    refine corresponds_bind corresponds fun element element' elements => ?_
    exact corresponds_pure ⟨.nil, .pointer elements⟩
  · refine corresponds_ite (by rw [kinds]) ?_ (corresponds_expected _)
    apply corresponds_bind (corresponds_startsEmbedded alike)
    rintro isEmbedded _ rfl
    refine corresponds_ite .rfl ?_ ?_
    · refine corresponds_bind corresponds fun embedded embedded' types => ?_
      exact corresponds_pure ⟨.nil, types⟩
    · refine corresponds_bind (corresponds_fieldNames alike) fun names names' texts => ?_
      refine corresponds_bind corresponds fun shared shared' types => ?_
      exact corresponds_pure ⟨texts, types⟩

omit corresponds in
theorem corresponds_fieldTag : fieldTag.Corresponds R (Option.Rel (SameText R)) fieldTag := by
  refine corresponds_bind corresponds_current fun token token' same => ?_
  refine corresponds_ite (by rw [(alike _ _ same).isLiteralString]) ?_ (corresponds_pure .none)
  refine corresponds_bind corresponds_step fun _ _ _ => ?_
  exact corresponds_pure (.some ⟨_, _, same, rfl, rfl⟩)

theorem corresponds_field :
    (field type).Corresponds R (FieldDecl.Corresponds R (GoType.Corresponds R)) (field type') := by
  refine corresponds_bind corresponds_current fun first first' same => ?_
  apply corresponds_bind (corresponds_fieldParts alike corresponds same)
  rintro ⟨names, shared⟩ ⟨names', shared'⟩ ⟨texts, types⟩
  refine corresponds_bind (corresponds_fieldTag alike) fun tag tag' tags => ?_
  exact corresponds_pure (.intro texts ⟨_, _, same, rfl, rfl⟩ types tags)

theorem corresponds_structBody : (structBody type).Corresponds R
    (List.Forall₂ (FieldDecl.Corresponds R (GoType.Corresponds R))) (structBody type') := by
  refine corresponds_bind (corresponds_require alike (by decide)) fun _ _ _ => ?_
  exact corresponds_semicolonList alike (by decide) (corresponds_field alike corresponds)

theorem corresponds_typeAfter {first first' : Token} (same : R first first') (head : TypeHead) :
    (typeAfter type first head).Corresponds R (GoType.Corresponds R) (typeAfter type' first' head) := by
  cases head with
  | name => exact corresponds_namedType alike corresponds same
  | star =>
    refine corresponds_bind corresponds fun element element' elements => ?_
    exact corresponds_pure (.pointer elements)
  | bracket =>
    have length : (arrayLength first).Corresponds R (fun _ _ => True) (arrayLength first') := by
      apply corresponds_bind (corresponds_accept alike (by decide))
      rintro accepted _ rfl
      exact corresponds_ite .rfl (corresponds_pure trivial) (corresponds_closeGroup alike same)
    refine corresponds_bind length fun _ _ _ => ?_
    refine corresponds_bind corresponds fun element element' elements => ?_
    exact corresponds_pure (.sequence elements)
  | parenthesis =>
    refine corresponds_bind corresponds fun _ _ _ => ?_
    refine corresponds_bind (corresponds_require alike (by decide)) fun _ _ _ => ?_
    exact corresponds_pure (.outline _)
  | arrow =>
    refine corresponds_bind (corresponds_require alike (by decide)) fun _ _ _ => ?_
    refine corresponds_bind corresponds fun _ _ _ => ?_
    exact corresponds_pure (.outline _)
  | channel =>
    refine corresponds_bind (corresponds_accept alike (by decide)) fun _ _ _ => ?_
    refine corresponds_bind corresponds fun _ _ _ => ?_
    exact corresponds_pure (.outline _)
  | map =>
    refine corresponds_bind (corresponds_require alike (by decide)) fun _ _ _ => ?_
    refine corresponds_bind corresponds fun _ _ _ => ?_
    refine corresponds_bind (corresponds_require alike (by decide)) fun _ _ _ => ?_
    refine corresponds_bind corresponds fun _ _ _ => ?_
    exact corresponds_pure (.outline _)
  | function =>
    refine corresponds_bind (corresponds_signature alike corresponds) fun _ _ _ => ?_
    exact corresponds_pure (.outline _)
  | interface =>
    refine corresponds_bind (corresponds_groupOf alike (by decide)) fun _ _ _ => ?_
    exact corresponds_pure (.outline _)
  | struct =>
    refine corresponds_bind (corresponds_structBody alike corresponds) fun fields fields' others => ?_
    exact corresponds_pure (.struct others)

theorem corresponds_typeWith :
    (typeWith type).Corresponds R (GoType.Corresponds R) (typeWith type') := by
  refine corresponds_bind corresponds_current fun first first' same => ?_
  rw [(alike _ _ same).typeHead]
  cases TypeHead.ofToken? first' with
  | none => exact corresponds_expected _
  | some head =>
    exact corresponds_bind corresponds_step fun _ _ _ => corresponds_typeAfter alike corresponds same head

end

section
variable (alike : ∀ token other, R token other → token.Alike other)
include alike

/-- The induction is on the limit, which is as long on the one side as on the other. -/
theorem corresponds_typeWithin (limit limit' : List Token) (same : limit.length = limit'.length) :
    (typeWithin limit).Corresponds R (GoType.Corresponds R) (typeWithin limit') := by
  induction limit generalizing limit' with
  | nil =>
    obtain rfl := List.eq_nil_of_length_eq_zero same.symm
    exact fun _ _ _ _ _ _ => .exhausted
  | cons token limit ih =>
    obtain ⟨other, limit', rfl⟩ := List.exists_cons_of_length_eq_add_one same.symm
    exact corresponds_typeWith alike (ih limit' (by simpa using same))

theorem corresponds_type : type.Corresponds R (GoType.Corresponds R) type := by
  intro final final' rest rest' same related
  have lengths : (final :: rest).length = (final' :: rest').length := by
    simp [related.length_eq]
  exact corresponds_typeWithin alike _ _ lengths final final' rest rest' same related

theorem corresponds_declEnd : declEnd.Corresponds R (fun _ _ => True) declEnd := by
  apply corresponds_bind (corresponds_acceptSemicolon alike)
  rintro accepted _ rfl
  apply corresponds_ite .rfl (corresponds_pure trivial)
  apply corresponds_bind (corresponds_atEnd alike)
  rintro ended _ rfl
  exact corresponds_ite .rfl (corresponds_pure trivial) (corresponds_expected _)

theorem corresponds_typeParameters :
    typeParameters.Corresponds R (fun _ _ => True) typeParameters := by
  have starts : startsTypeParameters.Corresponds R Eq startsTypeParameters := by
    refine corresponds_bind corresponds_current fun opening opening' first => ?_
    refine corresponds_bind (corresponds_lookahead 1) fun parameter parameter' second => ?_
    refine corresponds_bind (corresponds_lookahead 2) fun next next' third => ?_
    apply corresponds_pure
    rw [(alike _ _ first).is (by decide), (alike _ _ second).kind, (alike _ _ third).followsTypeParameter]
  apply corresponds_bind starts
  rintro found _ rfl
  exact corresponds_ite .rfl (corresponds_group alike) (corresponds_pure trivial)

theorem corresponds_typeSpec : typeSpec.Corresponds R (TypeDecl.Corresponds R) typeSpec := by
  refine corresponds_bind (corresponds_identifier alike) fun name name' same => ?_
  refine corresponds_bind (corresponds_typeParameters alike) fun _ _ _ => ?_
  apply corresponds_bind (corresponds_accept alike (by decide))
  rintro isAlias _ rfl
  refine corresponds_bind (corresponds_type alike) fun type type' types => ?_
  exact corresponds_pure (.intro isAlias ⟨_, _, same, rfl, rfl⟩ ⟨_, _, same, rfl, rfl⟩ types)

theorem corresponds_typeDecls :
    typeDecls.Corresponds R (List.Forall₂ (TypeDecl.Corresponds R)) typeDecls := by
  have specs : typeSpecs.Corresponds R (List.Forall₂ (TypeDecl.Corresponds R)) typeSpecs := by
    apply corresponds_bind (corresponds_accept alike (by decide))
    rintro accepted _ rfl
    refine corresponds_ite .rfl ?_ ?_
    · exact corresponds_semicolonList alike (by decide) (corresponds_typeSpec alike)
    · refine corresponds_bind (corresponds_typeSpec alike) fun decl decl' same => ?_
      exact corresponds_pure (.cons same .nil)
  refine corresponds_bind specs fun decls decls' same => ?_
  exact corresponds_bind (corresponds_declEnd alike) fun _ _ _ => corresponds_pure same

theorem corresponds_otherDecl : otherDecl.Corresponds R (fun _ _ => True) otherDecl := by
  have plain : plainToken.Corresponds R (Option.Rel fun _ _ => True) plainToken := by
    refine corresponds_bind corresponds_current fun token token' same => ?_
    refine corresponds_ite (by rw [(alike _ _ same).kind]) ?_ (corresponds_pure .none)
    exact corresponds_bind corresponds_step fun _ _ _ => corresponds_pure (.some trivial)
  have part : declPart.Corresponds R (Option.Rel fun _ _ => True) declPart := by
    refine corresponds_bind corresponds_current fun token token' same => ?_
    refine corresponds_ite (by rw [(alike _ _ same).opens]) ?_ ?_
    · exact corresponds_bind (corresponds_group alike) fun _ _ _ => corresponds_pure (.some trivial)
    · exact corresponds_ite (by rw [(alike _ _ same).closes]) corresponds_unexpected plain
  exact corresponds_bind (corresponds_many part) fun _ _ _ => corresponds_declEnd alike

theorem corresponds_decl :
    decl.Corresponds R (List.Forall₂ (TypeDecl.Corresponds R)) decl := by
  refine corresponds_bind corresponds_current fun first first' same => ?_
  rw [(alike _ _ same).declHead]
  cases DeclHead.ofToken? first' with
  | none => exact corresponds_unexpected
  | some head =>
    cases head with
    | type => exact corresponds_bind corresponds_step fun _ _ _ => corresponds_typeDecls alike
    | other =>
      refine corresponds_bind corresponds_step fun _ _ _ => ?_
      exact corresponds_bind (corresponds_otherDecl alike) fun _ _ _ => corresponds_pure .nil

theorem corresponds_nextDecl : nextDecl.Corresponds R
    (Option.Rel (List.Forall₂ (TypeDecl.Corresponds R))) nextDecl := by
  refine corresponds_bind (corresponds_semicolons alike) fun _ _ _ => ?_
  apply corresponds_bind (corresponds_atEnd alike)
  rintro ended _ rfl
  apply corresponds_ite .rfl (corresponds_pure .none)
  exact corresponds_bind (corresponds_decl alike) fun _ _ same => corresponds_pure (.some same)

theorem corresponds_file : file.Corresponds R (SourceFile.Corresponds R) file := by
  refine corresponds_bind (corresponds_semicolons alike) fun _ _ _ => ?_
  refine corresponds_bind (corresponds_require alike (by decide)) fun _ _ _ => ?_
  refine corresponds_bind (corresponds_identifier alike) fun package package' same => ?_
  refine corresponds_bind (corresponds_declEnd alike) fun _ _ _ => ?_
  refine corresponds_bind (corresponds_many (corresponds_nextDecl alike)) fun decls decls' others => ?_
  refine corresponds_pure (.intro ⟨_, _, same, rfl, rfl⟩ ?_)
  exact List.rel_flatten others

end

end Reader

end GoDto
