import GoDto.Proofs.Brackets
import GoDto.Proofs.CursorLists

/-!
Cursors over groups, to the token. A group is passed over up to the bracket that ends it and no further,
and what looks behind it stays where it is.
-/

namespace GoDto

namespace Cursor

variable {tokens : Tokens} {opener closer token : Token} {front rest behind : List Token}
  {inner turns depth start ahead place index steps : Nat}

theorem closeWithin_token (left : tokens.body.drop index = token :: rest) (kind : token.kind ≠ .endOfFile) :
    closeWithin opener (turns + 1) depth tokens.toList index (steps + 1) =
      (if token.opens then closeWithin opener turns (depth + 1)
        else if token.closes then
          if depth = 0 then stuck .belowZero
          else if depth - 1 = 0 then pure ()
          else closeWithin opener turns (depth - 1)
        else closeWithin opener turns depth) tokens.toList (index + 1) steps := by
  have before := Tokens.lt_of_drop left
  obtain ⟨same, -⟩ := List.cons.inj ((drop_inside before).symm.trans left)
  rw [closeWithin_eq, spend_bind, current_bind _ before, same, if_neg kind]
  rfl

/-- The loop stops right behind the bracket that ends the group, one step for each token later. -/
theorem closeWithin_of_settles (settles : Settles inner front)
    (inside : ∀ token ∈ front, token.kind ≠ .endOfFile) (closes : closer.closes)
    (left : tokens.body.drop index = front ++ closer :: behind) (within : steps ≤ turns)
    (enough : front.length < steps) :
    closeWithin opener turns (inner + 1) tokens.toList index steps =
      .done () (index + (front.length + 1)) (steps - (front.length + 1)) := by
  induction front generalizing inner turns index steps with
  | nil =>
    obtain ⟨turns, rfl⟩ := Nat.exists_eq_add_one_of_ne_zero (show turns ≠ 0 by omega)
    obtain ⟨steps, rfl⟩ := Nat.exists_eq_add_one_of_ne_zero (show steps ≠ 0 by omega)
    obtain rfl := settles_nil.1 settles
    have opens := Token.not_opens_of_closes closes
    rw [closeWithin_token left (Token.kind_ne_of_closes closes)]
    simp only [opens, closes, Bool.false_eq_true, if_false, if_true]
    rfl
  | cons token front ih =>
    obtain ⟨turns, rfl⟩ := Nat.exists_eq_add_one_of_ne_zero (show turns ≠ 0 by omega)
    obtain ⟨steps, rfl⟩ := Nat.exists_eq_add_one_of_ne_zero (show steps ≠ 0 by omega)
    obtain ⟨kind, inside⟩ := List.forall_mem_cons.1 inside
    rw [List.length_cons] at enough
    have next : tokens.body.drop (index + 1) = front ++ closer :: behind := by
      rw [← List.drop_drop, left]
      rfl
    have later {deep : Nat} (settles : Settles deep front) :
        closeWithin opener turns (deep + 1) tokens.toList (index + 1) steps =
          .done () (index + (front.length + 1 + 1)) (steps + 1 - (front.length + 1 + 1)) := by
      rw [ih settles inside next (by omega) (by omega)]
      congr 1 <;> omega
    rw [closeWithin_token left kind, List.length_cons]
    by_cases opens : token.opens
    · rw [if_pos opens]
      exact later ((settles_cons_opens opens).1 settles)
    rw [if_neg opens]
    by_cases closes : token.closes
    · -- The bracket closes an inner group, so the depth is above one and stays above zero.
      obtain ⟨positive, settles⟩ := (settles_cons_closes closes).1 settles
      obtain ⟨inner, rfl⟩ := Nat.exists_eq_add_one_of_ne_zero (Nat.ne_of_gt positive)
      rw [if_pos closes, if_neg (by omega), if_neg (by omega)]
      exact later settles
    · rw [if_neg closes]
      exact later ((settles_cons_other (by simpa using opens) (by simpa using closes)).1 settles)

/-- A group is passed over in a step for each token and one more, and the depth does not go below zero. -/
theorem group_of_group (enclosed : Group opener front) (inside : ∀ token ∈ front, token.kind ≠ .endOfFile)
    (left : tokens.body.drop place = front ++ behind) (enough : front.length < steps) :
    group tokens.toList place steps = .done () (place + front.length) (steps - (front.length + 1)) := by
  obtain @⟨closer, inner, opens, balanced, closes⟩ := enclosed
  have size : (opener :: (inner ++ [closer])).length = inner.length + 2 := by simp
  rw [size] at enough ⊢
  have whole : tokens.body.drop place = opener :: (inner ++ closer :: behind) := by simp [left]
  obtain ⟨kind, inside⟩ := List.forall_mem_cons.1 inside
  have next : tokens.body.drop (place + 1) = inner ++ closer :: behind := by
    rw [← List.drop_drop, whole]
    rfl
  obtain ⟨steps, rfl⟩ : ∃ more, steps = more + 2 := ⟨steps - 2, by omega⟩
  calc group tokens.toList place (steps + 2)
      = closeWithin opener (steps + 1) 0 tokens.toList place (steps + 1) := by
        unfold group
        rw [spend_bind, current, look_bind, whole]
        simp only [List.drop_zero, List.headD_cons, opens, if_true]
        rfl
    _ = closeWithin opener steps 1 tokens.toList (place + 1) steps := by
        rw [closeWithin_token whole kind, if_pos opens]
    _ = .done () (place + 1 + (inner.length + 1)) (steps - (inner.length + 1)) :=
        closeWithin_of_settles balanced (fun token member => inside token (by simp [member])) closes next
          (Nat.le_refl _) (by omega)
    _ = .done () (place + (inner.length + 2)) (steps + 2 - (inner.length + 2 + 1)) := by
        congr 1 <;> omega

/-- Where the reader of a group fails, so does the cursor. -/
theorem group_of_failed {error : SyntaxError}
    (failed : Reader.group tokens.final (tokens.body.drop place) = .failed error)
    (enough : tokens.toList.length < steps) : group tokens.toList place steps = .failed error := by
  rw [tokens.length_toList] at enough
  have paid : 1 * (tokens.body.drop place).length + 2 + 0 ≤ steps := by
    rw [List.length_drop]
    omega
  have settled := follows_group Nat.one_pos place steps 0 (Nat.le_refl _) paid
  rw [failed] at settled
  exact settled

theorem lookBehindGroup_eq (there : start + ahead = place) (enough : tokens.toList.length < steps) :
    ∃ remaining, lookBehindGroup ahead tokens.toList start steps =
      .done (tokenBehindGroup tokens.final 0 (tokens.body.drop place)) start remaining := by
  rw [tokens.length_toList] at enough
  obtain ⟨steps, rfl⟩ : ∃ more, steps = more + 1 := ⟨steps - 1, by omega⟩
  have short : ((tokens.body.drop start).drop ahead).length < steps := by
    simp only [List.length_drop]
    omega
  obtain ⟨remaining, same, -⟩ := @lookBehindWithin_eq tokens steps ahead 0 start steps (Nat.le_refl _) short
  rw [List.drop_drop, there] at same
  exact ⟨remaining, same⟩

end Cursor

end GoDto
