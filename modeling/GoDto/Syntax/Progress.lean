import GoDto.Syntax.File

/-!
Readers come to an end. Given an end mark to stop at, no reader of this library runs out of its
limit: what is repeated reads at least one token each time, and a type inside a type starts at a
later token.
-/

namespace GoDto

variable {α β : Type}

/-- The outcome of a reader that was given so many tokens, came to an end, and has read at least
as many tokens as `count` says for its value. -/
def Outcome.Takes (count : α → Nat) (given : Nat) : Outcome α → Prop
  | .done value left => left.length + count value ≤ given
  | .failed _ => True
  | .exhausted => False

namespace Reader

variable {final : Token} {bound : Nat}

/-- Every start on fewer than `bound` tokens comes to an end, after reading the tokens counted. -/
def Takes (reader : Reader α) (final : Token) (count : α → Nat) (bound : Nat) : Prop :=
  ∀ rest : List Token, rest.length < bound → (reader final rest).Takes count rest.length

theorem Takes.weaken {reader : Reader α} {count fewer : α → Nat}
    (takes : reader.Takes final count bound) (below : ∀ value, fewer value ≤ count value) :
    reader.Takes final fewer bound := by
  intro rest short
  have settled := takes rest short
  cases outcome : reader final rest with
  | done value left =>
    rw [outcome] at settled
    exact Nat.le_trans (Nat.add_le_add_left (below value) _) settled
  | failed error => trivial
  | exhausted => rw [outcome] at settled; exact settled

theorem takes_bind {first : Reader α} {second : α → Reader β} {taken : α → Nat} {count : β → Nat}
    (takes : first.Takes final taken bound)
    (later : ∀ value, (second value).Takes final (fun result => count result - taken value)
      (bound - taken value)) :
    (first >>= second).Takes final count bound := by
  intro rest short
  have settled := takes rest short
  change (andThen first second final rest).Takes count rest.length
  unfold andThen
  cases outcome : first final rest with
  | done value left =>
    rw [outcome] at settled
    have read : left.length + taken value ≤ rest.length := settled
    have further := later value left (by omega)
    dsimp only
    cases ending : second value final left with
    | done result leftOver =>
      rw [ending] at further
      have readOn : leftOver.length + (count result - taken value) ≤ left.length := further
      change leftOver.length + count result ≤ rest.length
      omega
    | failed error => trivial
    | exhausted => rw [ending] at further; exact further
  | failed error => trivial
  | exhausted => rw [outcome] at settled; exact settled

theorem takes_pure (value : α) (count : α → Nat) (none : count value = 0) :
    (pure value : Reader α).Takes final count bound := by
  intro rest _
  change rest.length + count value ≤ rest.length
  omega

theorem takes_lookahead (place : Nat) : (lookahead place).Takes final (fun _ => 0) bound :=
  fun _ _ => Nat.le_refl _

theorem takes_current : current.Takes final (fun _ => 0) bound := takes_lookahead 0

theorem takes_step : step.Takes final (fun _ => 0) bound := by
  intro rest _
  change rest.tail.length + 0 ≤ rest.length
  simp

theorem takes_expected (what : Expectation) (count : α → Nat) :
    (expected what : Reader α).Takes final count bound :=
  fun _ _ => trivial

theorem takes_unexpected (count : α → Nat) : (unexpected : Reader α).Takes final count bound :=
  fun _ _ => trivial

theorem takes_accept (spelling : String) : (accept spelling).Takes final (fun _ => 0) bound := by
  refine takes_bind takes_current fun token => ?_
  split
  · exact takes_bind takes_step fun _ => takes_pure _ _ rfl
  · exact takes_pure _ _ rfl

theorem takes_require (spelling : String) : (require spelling).Takes final (fun _ => 0) bound := by
  refine takes_bind (takes_accept spelling) fun accepted => ?_
  split
  · exact takes_pure _ _ rfl
  · exact takes_expected _ _

/-- A token that passes a test which the end mark fails is read for good. -/
theorem takes_one {test : Token → Prop} [DecidablePred test] {reader : Token → Reader α}
    {otherwise : Token → Reader α} {count : α → Nat} (stops : ¬test final)
    (inside : ∀ token, (reader token).Takes final (fun value => count value - 1) (bound - 1))
    (outside : ∀ token, (otherwise token).Takes final count bound) :
    (current >>= fun token =>
      if test token then step >>= fun _ => reader token else otherwise token).Takes
        final count bound := by
  intro rest short
  cases rest with
  | nil =>
    change ((if test final then step >>= fun _ => reader final else otherwise final) final []).Takes
      count 0
    rw [if_neg stops]
    exact outside final [] short
  | cons token rest =>
    change ((if test token then step >>= fun _ => reader token else otherwise token) final
      (token :: rest)).Takes count (rest.length + 1)
    split
    · change (reader token final rest).Takes count (rest.length + 1)
      have settled := inside token rest (by simp at short; omega)
      cases outcome : reader token final rest with
      | done value left =>
        rw [outcome] at settled
        have read : left.length + (count value - 1) ≤ rest.length := settled
        change left.length + count value ≤ rest.length + 1
        omega
      | failed error => trivial
      | exhausted => rw [outcome] at settled; exact settled
    · exact outside token (token :: rest) short

theorem takes_identifier (ends : final.kind = .endOfFile) :
    identifier.Takes final (fun _ => 1) bound :=
  takes_one (by simp [ends]) (fun _ => takes_pure _ _ rfl) fun _ => takes_expected _ _

theorem takes_acceptSemicolon (ends : final.kind = .endOfFile) :
    acceptSemicolon.Takes final (fun accepted => if accepted then 1 else 0) bound :=
  takes_one (by simp [ends]) (fun _ => takes_pure _ _ rfl) fun _ => takes_pure _ _ rfl

theorem takes_semicolons : semicolons.Takes final (fun _ => 0) bound := by
  intro rest _
  exact (List.dropWhile_sublist _).length_le

theorem takes_atEnd : atEnd.Takes final (fun _ => 0) bound :=
  takes_bind takes_current fun _ => takes_pure _ _ rfl

theorem takes_many {item : Reader (Option α)}
    (takes : item.Takes final (fun found => if found.isSome then 1 else 0) bound) :
    (many item).Takes final (fun _ => 0) bound := by
  have within : ∀ limit : List Token,
      (manyWithin item limit).Takes final (fun _ => 0) (min limit.length bound) := by
    intro limit
    induction limit with
    | nil =>
      intro rest short
      exact absurd short (by simp)
    | cons token limit ih =>
      have first : item.Takes final (fun found => if found.isSome then 1 else 0)
          (min (limit.length + 1) bound) := fun rest short => takes rest (by omega)
      refine takes_bind first fun found => ?_
      cases found with
      | none => exact takes_pure _ _ rfl
      | some value =>
        have later : (manyWithin item limit).Takes final (fun _ => 0)
            (min (limit.length + 1) bound - 1) := fun rest short => ih rest (by omega)
        exact takes_bind later fun _ => takes_pure _ _ rfl
  intro rest short
  exact within (final :: rest) rest (by simp only [List.length_cons]; omega)

theorem takes_semicolonList {close : String} {item : Reader α} (ends : final.kind = .endOfFile)
    (takes : item.Takes final (fun _ => 1) bound) :
    (semicolonList close item).Takes final (fun _ => 0) bound := by
  apply takes_many
  refine takes_bind takes_semicolons fun _ => ?_
  refine takes_bind (takes_accept close) fun closed => ?_
  split
  · exact takes_pure _ _ rfl
  · refine takes_bind takes fun value => ?_
    refine takes_bind (takes_acceptSemicolon ends) fun accepted => ?_
    split
    · exact takes_pure _ _ (by simp)
    · refine takes_bind takes_current fun token => ?_
      split
      · exact takes_pure _ _ (by simp)
      · exact takes_expected _ _

theorem takes_commaList {close : String} {item : Reader α}
    (takes : item.Takes final (fun _ => 1) bound) :
    (commaList close item).Takes final (fun _ => 0) bound := by
  apply takes_many
  refine takes_bind (takes_accept close) fun closed => ?_
  split
  · exact takes_pure _ _ rfl
  · refine takes_bind takes fun value => ?_
    refine takes_bind (takes_accept ",") fun accepted => ?_
    split
    · exact takes_pure _ _ (by simp)
    · refine takes_bind takes_current fun token => ?_
      split
      · exact takes_pure _ _ (by simp)
      · exact takes_expected _ _

theorem length_afterGroup {inner : Nat} {tokens behind : List Token}
    (found : afterGroup inner tokens = some behind) : behind.length < tokens.length := by
  fun_induction afterGroup inner tokens with
  | case1 => simp at found
  | case2 => simp at found
  | case3 inner token rest _ _ ih =>
    have shorter := ih found
    simp only [List.length_cons]
    omega
  | case4 token rest =>
    cases found
    simp
  | case5 token rest _ _ _ inner ih =>
    have shorter := ih found
    simp only [List.length_cons]
    omega
  | case6 inner token rest _ _ _ ih =>
    have shorter := ih found
    simp only [List.length_cons]
    omega

theorem takes_closeGroup (opener : Token) : (closeGroup opener).Takes final (fun _ => 0) bound := by
  intro rest _
  unfold closeGroup
  split
  · next behind found => exact Nat.le_of_lt (length_afterGroup found)
  · trivial

theorem not_opens_of_ends (ends : final.kind = .endOfFile) : ¬final.opens = true := by
  simp [Token.opens, ends]

theorem takes_group (ends : final.kind = .endOfFile) : group.Takes final (fun _ => 1) bound :=
  takes_one (not_opens_of_ends ends) (fun _ => takes_closeGroup _) fun _ => takes_unexpected _

theorem takes_groupOf (opening : String) (ends : final.kind = .endOfFile) :
    (groupOf opening).Takes final (fun _ => 1) bound := by
  refine takes_bind takes_current fun token => ?_
  split
  · exact takes_group ends
  · exact takes_unexpected _

section
variable {type : Reader GoType} (ends : final.kind = .endOfFile)
  (takes : ∀ bound' ≤ bound, type.Takes final (fun _ => 1) bound')
include ends takes

omit ends in
theorem takes_typeArguments : (typeArguments type).Takes final (fun _ => 0) bound := by
  refine takes_bind (takes_require "[") fun _ => ?_
  refine takes_bind (takes_commaList (takes _ (Nat.sub_le ..))) fun arguments => ?_
  exact takes_pure _ _ rfl

theorem takes_namedType (first : Token) :
    (namedType type first).Takes final (fun _ => 0) bound := by
  have name : (qualifiedName first).Takes final (fun _ => 0) bound := by
    refine takes_bind (takes_accept ".") fun dotted => ?_
    split
    · exact takes_bind (takes_identifier ends) fun _ => takes_pure _ _ (by simp)
    · exact takes_pure _ _ rfl
  refine takes_bind name fun named => ?_
  refine takes_bind takes_current fun token => ?_
  split
  · exact takes_bind (takes_typeArguments fun _ below => takes _ (by omega)) fun _ =>
      takes_pure _ _ rfl
  · exact takes_pure _ _ rfl

theorem takes_signature : (signature type).Takes final (fun _ => 0) bound := by
  refine takes_bind (takes_groupOf "(" ends) fun _ => ?_
  refine takes_bind takes_current fun result => ?_
  split
  · exact (takes_group ends).weaken fun _ => by simp
  · split
    · refine takes_bind (takes _ (by omega)) fun _ => ?_
      exact takes_pure _ _ (by simp)
    · exact takes_pure _ _ (by simp)

theorem takes_fieldParts (first : Token) :
    (fieldParts type first).Takes final (fun _ => 1) bound := by
  have embedded : startsEmbedded.Takes final (fun _ => 0) bound := by
    refine takes_bind (takes_lookahead 1) fun next => ?_
    split
    · exact takes_pure _ _ rfl
    · split
      · exact fun _ _ => Nat.le_refl _
      · exact takes_pure _ _ rfl
  unfold fieldParts
  split
  · refine takes_bind takes_step fun _ => ?_
    exact takes_bind (takes _ (by omega)) fun _ => takes_pure _ _ (by simp)
  · split
    · refine takes_bind embedded fun isEmbedded => ?_
      split
      · exact takes_bind (takes _ (by omega)) fun _ => takes_pure _ _ (by simp)
      · have names : fieldNames.Takes final (fun _ => 0) bound := by
          refine takes_bind (takes_identifier ends) fun name => ?_
          refine takes_bind (takes_many (α := String) ?_) fun later => takes_pure _ _ (by simp)
          refine takes_bind (takes_accept ",") fun accepted => ?_
          split
          · exact takes_bind (takes_identifier ends) fun _ => takes_pure _ _ (by simp)
          · exact takes_pure _ _ rfl
        refine takes_bind names fun _ => ?_
        exact takes_bind (takes _ (by omega)) fun _ => takes_pure _ _ (by simp)
    · exact takes_expected _ _

theorem takes_field : (field type).Takes final (fun _ => 1) bound := by
  refine takes_bind takes_current fun first => ?_
  refine takes_bind (takes_fieldParts ends (fun _ below => takes _ (by omega)) first)
    fun parts => ?_
  have tag : fieldTag.Takes final (fun _ => 0) (bound - 0 - 1) := by
    refine takes_bind takes_current fun token => ?_
    split
    · exact takes_bind takes_step fun _ => takes_pure _ _ rfl
    · exact takes_pure _ _ rfl
  exact takes_bind tag fun _ => takes_pure _ _ (by simp)

theorem takes_structBody : (structBody type).Takes final (fun _ => 0) bound := by
  refine takes_bind (takes_require _) fun _ => ?_
  exact takes_semicolonList ends (takes_field ends fun _ below => takes _ (by omega))

theorem takes_typeAfter (first : Token) (head : TypeHead) :
    (typeAfter type first head).Takes final (fun _ => 0) bound := by
  have inner : type.Takes final (fun _ => 0) bound :=
    (takes _ (Nat.le_refl _)).weaken fun _ => Nat.zero_le _
  cases head with
  | name => exact takes_namedType ends takes first
  | star => exact takes_bind inner fun _ => takes_pure _ _ rfl
  | bracket =>
    have length : (arrayLength first).Takes final (fun _ => 0) bound := by
      refine takes_bind (takes_accept "]") fun accepted => ?_
      split
      · exact takes_pure _ _ rfl
      · exact takes_closeGroup _
    refine takes_bind length fun _ => ?_
    exact takes_bind inner fun _ => takes_pure _ _ rfl
  | parenthesis =>
    refine takes_bind inner fun _ => ?_
    exact takes_bind (takes_require _) fun _ => takes_pure _ _ rfl
  | arrow =>
    refine takes_bind (takes_require _) fun _ => ?_
    exact takes_bind inner fun _ => takes_pure _ _ rfl
  | channel =>
    refine takes_bind (takes_accept _) fun _ => ?_
    exact takes_bind inner fun _ => takes_pure _ _ rfl
  | map =>
    refine takes_bind (takes_require _) fun _ => ?_
    refine takes_bind inner fun _ => ?_
    refine takes_bind (takes_require _) fun _ => ?_
    exact takes_bind inner fun _ => takes_pure _ _ rfl
  | function => exact takes_bind (takes_signature ends takes) fun _ => takes_pure _ _ rfl
  | interface =>
    exact takes_bind (takes_groupOf _ ends) fun _ => takes_pure _ _ rfl
  | struct => exact takes_bind (takes_structBody ends takes) fun _ => takes_pure _ _ rfl

end

theorem ofToken?_eq_none_of_ends (ends : final.kind = .endOfFile) :
    TypeHead.ofToken? final = none := by
  simp [TypeHead.ofToken?, ends]

theorem takes_typeWith {type : Reader GoType} (ends : final.kind = .endOfFile)
    (takes : ∀ bound' ≤ bound, type.Takes final (fun _ => 1) bound') :
    (typeWith type).Takes final (fun _ => 1) (bound + 1) := by
  intro rest short
  cases rest with
  | nil =>
    change (typeFrom type final (TypeHead.ofToken? final) final []).Takes _ _
    rw [ofToken?_eq_none_of_ends ends]
    trivial
  | cons first rest =>
    change (typeFrom type first (TypeHead.ofToken? first) final (first :: rest)).Takes _ _
    cases TypeHead.ofToken? first with
    | none => trivial
    | some head =>
      change (typeAfter type first head final rest).Takes _ (rest.length + 1)
      have settled := takes_typeAfter ends takes first head rest (by simp at short; omega)
      cases outcome : typeAfter type first head final rest with
      | done value left =>
        rw [outcome] at settled
        exact Nat.succ_le_succ settled
      | failed error => trivial
      | exhausted => rw [outcome] at settled; exact settled

theorem takes_typeWithin (ends : final.kind = .endOfFile) (limit : List Token) :
    ∀ bound ≤ limit.length, (typeWithin limit).Takes final (fun _ => 1) bound := by
  induction limit with
  | nil =>
    intro bound below rest short
    exact absurd short (by simp at below; omega)
  | cons token limit ih =>
    intro bound below rest short
    exact takes_typeWith ends ih rest (by simp only [List.length_cons] at below; omega)

theorem takes_type (ends : final.kind = .endOfFile) : type.Takes final (fun _ => 1) bound := by
  intro rest _
  exact takes_typeWithin ends (final :: rest) _ (Nat.le_refl _) rest (Nat.lt_succ_self _)

theorem takes_typeSpec (ends : final.kind = .endOfFile) :
    typeSpec.Takes final (fun _ => 1) bound := by
  refine takes_bind (takes_identifier ends) fun name => ?_
  have parameters : typeParameters.Takes final (fun _ => 0) (bound - 1) := by
    have starts : startsTypeParameters.Takes final (fun _ => 0) (bound - 1) := by
      refine takes_bind takes_current fun _ => ?_
      refine takes_bind (takes_lookahead 1) fun _ => ?_
      exact takes_bind (takes_lookahead 2) fun _ => takes_pure _ _ rfl
    refine takes_bind starts fun found => ?_
    split
    · exact (takes_group ends).weaken fun _ => by simp
    · exact takes_pure _ _ rfl
  refine takes_bind parameters fun _ => ?_
  refine takes_bind (takes_accept "=") fun isAlias => ?_
  exact takes_bind (takes_type ends) fun _ => takes_pure _ _ (by simp)

theorem takes_declEnd : declEnd.Takes final (fun _ => 0) bound := by
  have accepted : acceptSemicolon.Takes final (fun _ => 0) bound := by
    refine takes_bind takes_current fun token => ?_
    split
    · exact takes_bind takes_step fun _ => takes_pure _ _ rfl
    · exact takes_pure _ _ rfl
  refine takes_bind accepted fun found => ?_
  split
  · exact takes_pure _ _ rfl
  · refine takes_bind takes_atEnd fun ended => ?_
    split
    · exact takes_pure _ _ rfl
    · exact takes_expected _ _

theorem takes_typeDecls (ends : final.kind = .endOfFile) :
    typeDecls.Takes final (fun _ => 0) bound := by
  have specs : typeSpecs.Takes final (fun _ => 0) bound := by
    refine takes_bind (takes_accept "(") fun accepted => ?_
    split
    · exact takes_semicolonList ends (takes_typeSpec ends)
    · exact takes_bind (takes_typeSpec ends) fun _ => takes_pure _ _ (by simp)
  refine takes_bind specs fun _ => ?_
  exact takes_bind takes_declEnd fun _ => takes_pure _ _ rfl

theorem takes_otherDecl (ends : final.kind = .endOfFile) :
    otherDecl.Takes final (fun _ => 0) bound := by
  have plain : plainToken.Takes final (fun found => if found.isSome then 1 else 0) bound :=
    takes_one (by simp [ends]) (fun _ => takes_pure _ _ rfl) fun _ => takes_pure _ _ rfl
  refine takes_bind (takes_many (α := Unit) ?_) fun _ => takes_declEnd
  refine takes_bind takes_current fun token => ?_
  split
  · exact takes_bind (takes_group ends) fun _ => takes_pure _ _ rfl
  · split
    · exact takes_unexpected _
    · exact plain

theorem takes_decl (ends : final.kind = .endOfFile) : decl.Takes final (fun _ => 1) bound := by
  intro rest short
  cases rest with
  | nil =>
    change (declFrom (DeclHead.ofToken? final) final []).Takes _ _
    have none : DeclHead.ofToken? final = none := by simp [DeclHead.ofToken?, ends]
    rw [none]
    trivial
  | cons first rest =>
    change (declFrom (DeclHead.ofToken? first) final (first :: rest)).Takes _ _
    have inside : ∀ reader : Reader (List TypeDecl), reader.Takes final (fun _ => 0) bound →
        ((step >>= fun _ => reader) final (first :: rest)).Takes (fun _ => 1)
          (first :: rest).length := by
      intro reader takes
      change (reader final rest).Takes _ (rest.length + 1)
      have settled := takes rest (by simp at short; omega)
      cases outcome : reader final rest with
      | done value left =>
        rw [outcome] at settled
        exact Nat.succ_le_succ settled
      | failed error => trivial
      | exhausted => rw [outcome] at settled; exact settled
    cases DeclHead.ofToken? first with
    | none => trivial
    | some head =>
      cases head with
      | type => exact inside _ (takes_typeDecls ends)
      | other => exact inside _ (takes_bind (takes_otherDecl ends) fun _ => takes_pure _ _ rfl)

theorem takes_file (ends : final.kind = .endOfFile) : file.Takes final (fun _ => 0) bound := by
  refine takes_bind takes_semicolons fun _ => ?_
  refine takes_bind (takes_require _) fun _ => ?_
  refine takes_bind (takes_identifier ends) fun package => ?_
  refine takes_bind takes_declEnd fun _ => ?_
  refine takes_bind (takes_many (α := List TypeDecl) ?_) fun _ => takes_pure _ _ (by simp)
  refine takes_bind takes_semicolons fun _ => ?_
  refine takes_bind takes_atEnd fun ended => ?_
  split
  · exact takes_pure _ _ rfl
  · exact takes_bind (takes_decl ends) fun _ => takes_pure _ _ (by simp)

/-- A file is always read to its end or to an error. -/
theorem file_ne_exhausted (ends : final.kind = .endOfFile) (rest : List Token) :
    file final rest ≠ .exhausted := by
  intro outcome
  have settled := takes_file ends rest (Nat.lt_succ_self _)
  rw [outcome] at settled
  exact settled

end Reader

end GoDto
