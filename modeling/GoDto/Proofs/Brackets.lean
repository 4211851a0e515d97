import GoDto.Proofs.ProperTokens
import GoDto.Syntax.Group

/-!
Bracket groups, told by counting. Between the brackets of a group no prefix closes more brackets
than it opens, and in the end as many are closed as are opened. Passing over a group and looking
behind it both find the bracket that counting finds.
-/

namespace GoDto

/-- No prefix closes more brackets than it opens, if `depth` brackets are open before. -/
def Within (depth : Nat) (tokens : List Token) : Prop :=
  ∀ front, front <+: tokens → front.countP Token.closes ≤ front.countP Token.opens + depth

/-- All of the `depth` brackets that are open before are closed, and no others. -/
structure Settles (depth : Nat) (tokens : List Token) : Prop where
  within : Within depth tokens
  total : tokens.countP Token.closes = tokens.countP Token.opens + depth

/-- As many brackets are closed as are opened, and none before it is opened. -/
abbrev Balanced (tokens : List Token) : Prop := Settles 0 tokens

/-- A bracket, what it encloses, and the bracket that closes it, which may be of another kind. -/
inductive Group (opener : Token) : List Token → Prop where
  | intro {closer : Token} {inner : List Token} : opener.opens → Balanced inner → closer.closes →
      Group opener (opener :: (inner ++ [closer]))

theorem Token.not_closes_of_opens {token : Token} (opens : token.opens = true) :
    token.closes = false := by
  rw [Bool.eq_false_iff, Ne, closes_iff]
  rcases opens_iff.1 opens with ⟨-, text⟩ | ⟨-, text⟩ | ⟨-, text⟩ <;>
    simp [IsOperator, text, leftBrace, rightBrace]

theorem Token.not_opens_of_closes {token : Token} (closes : token.closes = true) :
    token.opens = false := by
  rw [Bool.eq_false_iff]
  intro opens
  simp [not_closes_of_opens opens] at closes

theorem Token.kind_ne_of_closes {token : Token} (closes : token.closes = true) :
    token.kind ≠ .endOfFile := by
  intro kind
  simp [Token.closes, kind] at closes

theorem Token.Ends.opens {token : Token} (ends : token.Ends) : token.opens = false := by
  simp [Token.opens, ends.kind]

section
variable {depth : Nat} {token : Token} {tokens : List Token}

theorem settles_nil : Settles depth [] ↔ depth = 0 := by
  constructor
  · intro settles
    simpa using settles.total.symm
  · intro same
    subst same
    refine ⟨fun front inside => ?_, rfl⟩
    rw [List.prefix_nil.1 inside]
    simp

theorem balanced_nil : Balanced [] := settles_nil.2 rfl

/-- How one more token in front changes the number of brackets that are open before the rest. -/
theorem settles_cons (opened closed : Nat) (opens : opened = if token.opens then 1 else 0)
    (closes : closed = if token.closes then 1 else 0) :
    Settles depth (token :: tokens) ↔
      closed ≤ depth + opened ∧ Settles (depth + opened - closed) tokens := by
  have counted : ∀ front : List Token,
      (token :: front).countP Token.opens = front.countP Token.opens + opened ∧
        (token :: front).countP Token.closes = front.countP Token.closes + closed := by
    intro front
    simp only [List.countP_cons, opens, closes, and_self]
  constructor
  · intro settles
    have first := settles.within [token] (List.cons_prefix_cons.2 ⟨rfl, List.nil_prefix⟩)
    rw [(counted []).1, (counted []).2] at first
    simp only [List.countP_nil, Nat.zero_add] at first
    refine ⟨by omega, fun front inside => ?_, ?_⟩
    · have bound := settles.within (token :: front) (List.cons_prefix_cons.2 ⟨rfl, inside⟩)
      rw [(counted front).1, (counted front).2] at bound
      omega
    · have total := settles.total
      rw [(counted tokens).1, (counted tokens).2] at total
      omega
  · rintro ⟨enough, settles⟩
    refine ⟨fun front inside => ?_, ?_⟩
    · cases front with
      | nil => simp
      | cons first front =>
        obtain ⟨rfl, further⟩ := List.cons_prefix_cons.1 inside
        have bound := settles.within front further
        rw [(counted front).1, (counted front).2]
        omega
    · have total := settles.total
      rw [(counted tokens).1, (counted tokens).2]
      omega

theorem settles_cons_opens (opens : token.opens) :
    Settles depth (token :: tokens) ↔ Settles (depth + 1) tokens := by
  rw [settles_cons 1 0 (by simp [opens])
    (by simp [Token.not_closes_of_opens opens])]
  simp

theorem settles_cons_closes (closes : token.closes) :
    Settles depth (token :: tokens) ↔ 0 < depth ∧ Settles (depth - 1) tokens := by
  rw [settles_cons 0 1 (by simp [Token.not_opens_of_closes closes])
    (by simp [closes])]
  simp [Nat.lt_iff_add_one_le]

theorem settles_cons_other (opens : token.opens = false) (closes : token.closes = false) :
    Settles depth (token :: tokens) ↔ Settles depth tokens := by
  rw [settles_cons 0 0 (by simp [opens]) (by simp [closes])]
  simp

/-- Balanced tokens in front leave open what was open. -/
theorem Settles.append {later : List Token} (first : Balanced tokens)
    (second : Settles depth later) : Settles depth (tokens ++ later) := by
  have total := first.total
  constructor
  · intro front inside
    rcases List.prefix_or_prefix_of_prefix inside (List.prefix_append tokens later) with
      short | ⟨rest, rfl⟩
    · have bound := first.within front short
      omega
    · have bound := second.within rest ((List.prefix_append_right_inj _).1 inside)
      rw [List.countP_append, List.countP_append]
      omega
  · have more := second.total
    rw [List.countP_append, List.countP_append]
    omega

theorem balanced_of_forall (plain : ∀ token ∈ tokens, token.opens = false ∧ token.closes = false) :
    Balanced tokens := by
  induction tokens with
  | nil => exact balanced_nil
  | cons token tokens ih =>
    obtain ⟨opens, closes⟩ := plain token List.mem_cons_self
    apply (settles_cons_other opens closes).2
    exact ih fun other member => plain other (List.mem_cons_of_mem _ member)

theorem balanced_enclose {opener closer : Token} (opens : opener.opens) (inner : Balanced tokens)
    (closes : closer.closes) : Balanced (opener :: (tokens ++ [closer])) := by
  have last : Settles 1 [closer] := by
    rw [settles_cons_closes closes]
    exact ⟨Nat.one_pos, balanced_nil⟩
  apply (settles_cons_opens opens).2
  exact inner.append last

theorem Group.opens {opener : Token} (group : Group opener tokens) : opener.opens = true := by
  cases group
  assumption

theorem Group.first {opener : Token} (group : Group opener tokens) :
    ∃ rest, tokens = opener :: rest := by
  cases group
  exact ⟨_, rfl⟩

theorem Group.balanced {opener : Token} (group : Group opener tokens) : Balanced tokens := by
  obtain ⟨opens, inner, closes⟩ := group
  exact balanced_enclose opens inner closes

end

section
variable {inner depth : Nat} {tokens behind : List Token} {final closer : Token}

theorem afterGroup_eq_some (found : afterGroup inner tokens = some behind) :
    ∃ front closer, tokens = front ++ closer :: behind ∧ closer.closes ∧ Settles inner front ∧
      ∀ token ∈ front, token.kind ≠ .endOfFile := by
  fun_induction afterGroup inner tokens with
  | case1 => simp at found
  | case2 => simp at found
  | case3 inner token rest kind opens ih =>
    obtain ⟨front, closer, rfl, closes, settles, inside⟩ := ih found
    exact ⟨token :: front, closer, rfl, closes, (settles_cons_opens opens).2 settles,
      List.forall_mem_cons.2 ⟨kind, inside⟩⟩
  | case4 token rest _ _ closes =>
    cases found
    exact ⟨[], token, rfl, closes, balanced_nil, by simp⟩
  | case5 token rest kind _ closes inner ih =>
    obtain ⟨front, closer, rfl, closed, settles, inside⟩ := ih found
    exact ⟨token :: front, closer, rfl, closed,
      (settles_cons_closes closes).2 ⟨Nat.succ_pos _, settles⟩,
      List.forall_mem_cons.2 ⟨kind, inside⟩⟩
  | case6 inner token rest kind opens closes ih =>
    obtain ⟨front, closer, rfl, closed, settles, inside⟩ := ih found
    exact ⟨token :: front, closer, rfl, closed,
      (settles_cons_other (by simpa using opens) (by simpa using closes)).2 settles,
      List.forall_mem_cons.2 ⟨kind, inside⟩⟩

theorem afterGroup_of_settles (settles : Settles inner tokens)
    (inside : ∀ token ∈ tokens, token.kind ≠ .endOfFile) (closes : closer.closes) :
    afterGroup inner (tokens ++ closer :: behind) = some behind := by
  induction tokens generalizing inner with
  | nil =>
    obtain rfl := settles_nil.1 settles
    have opens := Token.not_opens_of_closes closes
    simp [afterGroup, Token.kind_ne_of_closes closes, opens, closes]
  | cons token tokens ih =>
    have kind := inside token List.mem_cons_self
    have later := fun other member => inside other (List.mem_cons_of_mem token member)
    by_cases opens : token.opens
    · have rest := ih ((settles_cons_opens opens).1 settles) later
      simp [afterGroup, kind, opens, rest]
    · by_cases closed : token.closes
      · obtain ⟨positive, settles⟩ := (settles_cons_closes closed).1 settles
        obtain ⟨inner, rfl⟩ := Nat.exists_eq_succ_of_ne_zero (Nat.ne_of_gt positive)
        have rest := ih settles later
        simpa [afterGroup, kind, opens, closed] using rest
      · have rest := ih ((settles_cons_other (by simpa using opens) (by simpa using closed)).1 settles)
          later
        simp [afterGroup, kind, opens, closed, rest]

/-- What is read up to the end of a group is the group, less the bracket that opens it. -/
theorem group_of_afterGroup {opener : Token} (opens : opener.opens)
    (found : afterGroup 0 tokens = some behind) :
    ∃ front, tokens = front ++ behind ∧ Group opener (opener :: front) ∧
      ∀ token ∈ front, token.kind ≠ .endOfFile := by
  obtain ⟨front, closer, rfl, closes, balanced, inside⟩ := afterGroup_eq_some found
  have last : ∀ token ∈ [closer], token.kind ≠ .endOfFile := by
    simp [Token.kind_ne_of_closes closes]
  exact ⟨front ++ [closer], by simp, .intro opens balanced closes, List.forall_mem_append.2 ⟨inside, last⟩⟩

theorem afterGroup_of_group {opener : Token} (group : Group opener (opener :: tokens))
    (inside : ∀ token ∈ tokens, token.kind ≠ .endOfFile) :
    afterGroup 0 (tokens ++ behind) = some behind := by
  generalize same : opener :: tokens = whole at group
  obtain @⟨closer, inner, opens, balanced, closes⟩ := group
  obtain rfl : tokens = inner ++ [closer] := (List.cons.inj same).2
  rw [List.append_assoc]
  exact afterGroup_of_settles balanced (fun token member => inside token (by simp [member])) closes

/-- Inside of brackets, looking ahead finds what reading up to the last of their ends leaves next, or the
first end mark if there is none. -/
theorem tokenBehindGroup_eq (final : Token) (inner : Nat) (tokens : List Token) :
    tokenBehindGroup final (inner + 1) tokens =
      match afterGroup inner tokens with
      | some behind => behind.headD final
      | none => (tokens.find? (·.kind == .endOfFile)).getD final := by
  fun_induction afterGroup inner tokens with
  | case1 => rfl
  | case2 inner token rest ends => simp [tokenBehindGroup, ends]
  | case3 inner token rest kind opens ih => simp [tokenBehindGroup, kind, opens, ih]
  | case4 token rest kind opens closes => simp [tokenBehindGroup, kind, opens, closes]
  | case5 token rest kind opens closes inner ih => simp [tokenBehindGroup, kind, opens, closes, ih]
  | case6 inner token rest kind opens closes ih => simp [tokenBehindGroup, kind, opens, closes, ih]

theorem tokenBehindGroup_of_settles (settles : Settles depth tokens)
    (inside : ∀ token ∈ tokens, token.kind ≠ .endOfFile) (closes : closer.closes) :
    tokenBehindGroup final (depth + 1) (tokens ++ closer :: behind) = behind.headD final := by
  rw [tokenBehindGroup_eq, afterGroup_of_settles settles inside closes]

/-- Looking behind a group finds the token that follows it. -/
theorem tokenBehindGroup_of_group {opener : Token} (group : Group opener tokens)
    (inside : ∀ token ∈ tokens, token.kind ≠ .endOfFile) :
    tokenBehindGroup final 0 (tokens ++ behind) = behind.headD final := by
  obtain @⟨closer, inner, opens, balanced, closes⟩ := group
  have kind := inside opener List.mem_cons_self
  have found : tokenBehindGroup final 1 (inner ++ closer :: behind) = behind.headD final :=
    tokenBehindGroup_of_settles balanced (fun token member => inside token (by simp [member])) closes
  simpa [tokenBehindGroup, kind, opens] using found

end

end GoDto
