import GoDto.Proofs.Brackets

/-!
The depth of brackets, and where it first comes back to zero. Seen from an opening bracket, that is where
its group ends.
-/

namespace GoDto

/-- Opening brackets less closing ones, of whatever kinds -/
def depth (tokens : List Token) : Int :=
  (tokens.countP Token.opens : Int) - (tokens.countP Token.closes : Int)

/-- Behind so many tokens the depth is zero again for the first time, and the file does not end before. -/
structure Returns (tokens : List Token) (count : Nat) : Prop where
  positive : 0 < count
  inside : ∀ token ∈ tokens.take count, token.kind ≠ .endOfFile
  closed : depth (tokens.take count) = 0
  first : ∀ fewer < count, 0 < fewer → depth (tokens.take fewer) ≠ 0

instance (tokens : List Token) (count : Nat) : Decidable (Returns tokens count) :=
  decidable_of_iff (0 < count ∧ (∀ token ∈ tokens.take count, token.kind ≠ .endOfFile) ∧
      depth (tokens.take count) = 0 ∧ ∀ fewer < count, 0 < fewer → depth (tokens.take fewer) ≠ 0)
    ⟨fun ⟨positive, inside, closed, first⟩ => ⟨positive, inside, closed, first⟩,
      fun ⟨positive, inside, closed, first⟩ => ⟨positive, inside, closed, first⟩⟩

section
variable {token opener : Token} {tokens rest front behind : List Token} {count : Nat}

theorem depth_append (front back : List Token) : depth (front ++ back) = depth front + depth back := by
  simp only [depth, List.countP_append, Int.natCast_add]
  omega

theorem depth_cons (token : Token) (tokens : List Token) :
    depth (token :: tokens) = depth [token] + depth tokens :=
  depth_append [token] tokens

theorem depth_of_opens (opens : token.opens) : depth [token] = 1 := by
  simp [depth, opens, Token.not_closes_of_opens opens]

theorem depth_of_closes (closes : token.closes) : depth [token] = -1 := by
  simp [depth, closes, Token.not_opens_of_closes closes]

/-- A token that is no closing bracket does not make the depth smaller. -/
theorem depth_singleton_nonneg (closes : token.closes = false) : 0 ≤ depth [token] := by
  have closed : [token].countP Token.closes = 0 := by simp [closes]
  unfold depth
  omega

theorem depth_take_succ (before : count < tokens.length) :
    depth (tokens.take (count + 1)) = depth (tokens.take count) + depth [tokens[count]] := by
  rw [List.take_succ_eq_append_getElem before, depth_append]

/-- Balanced tokens are those over which the depth does not change and never goes below what it was. -/
theorem balanced_iff_depth :
    Balanced tokens ↔ depth tokens = 0 ∧ ∀ count, 0 ≤ depth (tokens.take count) := by
  constructor
  · intro balanced
    have total := balanced.total
    constructor
    · unfold depth
      omega
    · intro count
      have bound := balanced.within (tokens.take count) (List.take_prefix count tokens)
      unfold depth
      omega
  · intro ⟨same, above⟩
    unfold depth at same
    constructor
    · intro front inside
      have bound := above front.length
      rw [← List.prefix_iff_eq_take.1 inside] at bound
      unfold depth at bound
      omega
    · omega

theorem Returns.le_length (returns : Returns (opener :: rest) count) :
    count ≤ (opener :: rest).length := by
  apply Nat.le_of_not_lt
  intro longer
  have early := returns.first (opener :: rest).length longer (by simp)
  have closed := returns.closed
  rw [List.take_of_length_le (by omega)] at early closed
  exact early closed

/-- Before it returns to zero the depth is above zero, since it changes by one at a time. -/
theorem Returns.depth_pos (returns : Returns (opener :: rest) count) (opens : opener.opens)
    (fewer : Nat) (positive : 0 < fewer) (before : fewer < count) :
    0 < depth ((opener :: rest).take fewer) := by
  induction fewer with
  | zero => omega
  | succ fewer ih =>
    by_cases start : fewer = 0
    · subst start
      simp [depth_of_opens opens]
    · have above := ih (by omega) (by omega)
      have other := returns.first (fewer + 1) before positive
      have inside : fewer < (opener :: rest).length := by
        have short := returns.le_length
        omega
      have change := depth_take_succ inside
      by_cases closes : (opener :: rest)[fewer].closes
      · rw [depth_of_closes closes] at change
        omega
      · have level := depth_singleton_nonneg (Bool.eq_false_iff.2 closes)
        omega

/-- The opening bracket and another token are passed when the depth returns to zero. -/
theorem Returns.split (returns : Returns (opener :: rest) count) (opens : opener.opens) :
    ∃ inner closer behind, rest = inner ++ closer :: behind ∧ count = inner.length + 2 := by
  have inside := returns.le_length
  rw [List.length_cons] at inside
  match count, returns.positive, returns.closed with
  | 1, _, closed => simp [depth_of_opens opens] at closed
  | size + 2, _, _ =>
    refine ⟨rest.take size, rest[size], rest.drop (size + 1), ?_, ?_⟩
    · rw [← List.drop_eq_getElem_cons, List.take_append_drop]
    · rw [List.length_take, Nat.min_eq_left (by omega)]

section
variable {inner : List Token} {closer : Token}
  (returns : Returns (opener :: (inner ++ closer :: behind)) (inner.length + 2)) (opens : opener.opens)
include returns opens

theorem Returns.depth_nonneg (part : Nat) : 0 ≤ depth (inner.take part) := by
  have below := Nat.min_le_right part inner.length
  have above := returns.depth_pos opens (min part inner.length + 1) (by omega) (by omega)
  rw [List.take_succ_cons, List.take_append_of_le_length below, depth_cons, depth_of_opens opens,
    ← List.take_eq_take_min] at above
  omega

/-- What is passed when the depth returns to zero is a group. -/
theorem Returns.group : Group opener (opener :: (inner ++ [closer])) := by
  have whole : (opener :: (inner ++ closer :: behind)).take (inner.length + 2) =
      opener :: (inner ++ [closer]) := by
    simp [List.take_append, List.take_of_length_le]
  have closed := returns.closed
  rw [whole, depth_cons, depth_append, depth_of_opens opens] at closed
  have above := returns.depth_nonneg opens inner.length
  rw [List.take_length] at above
  have closes : closer.closes := by
    apply Bool.of_not_eq_false
    intro other
    have level := depth_singleton_nonneg other
    omega
  rw [depth_of_closes closes] at closed
  have level : depth inner = 0 := by omega
  exact .intro opens (balanced_iff_depth.2 ⟨level, returns.depth_nonneg opens⟩) closes

end

theorem returns_of_group (group : Group opener front)
    (inside : ∀ token ∈ front, token.kind ≠ .endOfFile) : Returns (front ++ behind) front.length := by
  obtain @⟨closer, inner, opens, balanced, closes⟩ := group
  obtain ⟨level, above⟩ := balanced_iff_depth.1 balanced
  have size : (opener :: (inner ++ [closer])).length = inner.length + 2 := by simp
  constructor
  · omega
  · rwa [List.take_left]
  · rw [List.take_left]
    calc depth (opener :: (inner ++ [closer]))
        = depth [opener] + (depth inner + depth [closer]) := by rw [depth_cons, depth_append]
      _ = 0 := by rw [depth_of_opens opens, depth_of_closes closes, level]; rfl
  · intro fewer before positive
    obtain ⟨part, rfl⟩ := Nat.exists_eq_add_one_of_ne_zero (Nat.ne_of_gt positive)
    have cut : (opener :: (inner ++ [closer]) ++ behind).take (part + 1) = opener :: inner.take part := by
      have short : part ≤ inner.length := by omega
      simp [List.take_append_of_le_length, short]
    have bound := above part
    rw [cut, depth_cons, depth_of_opens opens]
    omega

/-- From an opening bracket on, the depth returns to zero exactly where the group of that bracket ends. -/
theorem returns_iff_group (opens : opener.opens) : Returns (opener :: rest) count ↔
    ∃ front behind, opener :: rest = front ++ behind ∧ front.length = count ∧ Group opener front ∧
      ∀ token ∈ front, token.kind ≠ .endOfFile := by
  constructor
  · intro returns
    obtain ⟨inner, closer, behind, rfl, rfl⟩ := returns.split opens
    have inside := returns.inside
    have same : opener :: (inner ++ closer :: behind) = opener :: (inner ++ [closer]) ++ behind := by simp
    have size : (opener :: (inner ++ [closer])).length = inner.length + 2 := by simp
    rw [same, ← size, List.take_left] at inside
    exact ⟨_, behind, same, size, returns.group opens, inside⟩
  · intro ⟨front, behind, same, size, group, inside⟩
    rw [same, ← size]
    exact returns_of_group group inside

/-- The end of the file stands behind every return, so it may be left out. -/
theorem returns_append_ending (ends : token.kind = .endOfFile) (opens : opener.opens) :
    Returns (opener :: rest ++ [token]) count ↔ Returns (opener :: rest) count := by
  rw [List.cons_append, returns_iff_group opens, returns_iff_group opens]
  constructor
  · intro ⟨front, behind, same, size, group, inside⟩
    rcases List.eq_nil_or_concat behind with rfl | ⟨behind, last, rfl⟩
    · rw [List.append_nil] at same
      have member : token ∈ front := by simp [← same]
      exact absurd ends (inside token member)
    · rw [List.concat_eq_append, ← List.cons_append, ← List.append_assoc] at same
      exact ⟨front, behind, List.append_inj_left' same rfl, size, group, inside⟩
  · intro ⟨front, behind, same, size, group, inside⟩
    exact ⟨front, behind ++ [token], by simp [← List.append_assoc, ← same], size, group, inside⟩

end

end GoDto
