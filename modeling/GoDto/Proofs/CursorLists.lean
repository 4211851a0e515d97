import GoDto.Proofs.CursorRules

/-!
Cursors over lists and groups. A loop over the items of a list, over semicolons or over the tokens of
a group does what the reader of it does, and the depth of the brackets is never zero where it is made
smaller.
-/

namespace GoDto

namespace Reader

variable {α : Type}

/-- What passes over semicolons reads one and goes on, or there is none. -/
theorem semicolons_eq {final : Token} (ends : final.kind = .endOfFile) (rest : List Token) :
    semicolons final rest = (acceptSemicolon >>= fun accepted =>
      if accepted then semicolons else pure ()) final rest := by
  rw [acceptSemicolon_bind]
  cases rest with
  | nil =>
    change _ = (if final.kind = .semicolon then _ else _ : Reader Unit) final []
    rw [if_neg (by simp [ends])]
    rfl
  | cons token rest =>
    change _ = (if token.kind = .semicolon then _ else _ : Reader Unit) final (token :: rest)
    by_cases semicolon : token.kind = .semicolon
    · rw [if_pos semicolon]
      change Outcome.done () _ = Outcome.done () _
      rw [List.dropWhile_cons_of_pos (by simpa using semicolon)]
      rfl
    · rw [if_neg semicolon]
      change Outcome.done () _ = Outcome.done () _
      rw [List.dropWhile_cons_of_neg (by simpa using semicolon)]

theorem semicolons_bind_eq {β : Type} {final : Token} (ends : final.kind = .endOfFile)
    (next : Unit → Reader β) (rest : List Token) :
    (semicolons >>= next) final rest = (acceptSemicolon >>= fun accepted =>
      if accepted then semicolons >>= next else next ()) final rest := by
  have pushed : (fun accepted : Bool => if accepted then semicolons >>= next else next ()) =
      fun accepted => (if accepted then semicolons else pure ()) >>= next := by
    funext accepted
    cases accepted <;> rfl
  rw [pushed, ← bind_assoc, bind_apply, semicolons_eq ends, ← bind_apply]

/-- An item and the semicolon that ends it, unless `close` comes next -/
def endedItem (close : String) (item : Reader α) : Reader (Option α) := do
  if ← accept close then pure none
  else do
    let value ← item
    if ← acceptSemicolon then pure (some value)
    else if (← current).is close then pure (some value)
    else expected (.either ";" close)

theorem semicolonItem_eq (close : String) (item : Reader α) :
    semicolonItem close item = semicolons >>= fun _ => endedItem close item := rfl

theorem manyWithin_semicolonItem (close : String) (item : Reader α) (token : Token)
    (limit : List Token) :
    manyWithin (semicolonItem close item) (token :: limit) =
      semicolons >>= fun _ => endedItem close item >>= fun found => match found with
        | none => pure []
        | some value => manyWithin (semicolonItem close item) limit >>=
          fun later => pure (value :: later) := by
  rw [manyWithin]
  exact bind_assoc semicolons _ _

/-- The token that ends a group, and the file if it ends first -/
def closeFrom (opener : Token) (inner : Nat) : Reader Unit := fun _ rest =>
  match afterGroup inner rest with
  | some behind => .done () behind
  | none => .failed (.unclosed opener)

/-- What the next token of a group means for it -/
def closeTurn (opener : Token) (inner : Nat) (token : Token) : Reader Unit :=
  if token.kind = .endOfFile then fail (.unclosed opener)
  else step >>= fun _ =>
    if token.opens then closeFrom opener (inner + 1)
    else if token.closes then
      match inner with
      | 0 => pure ()
      | inner + 1 => closeFrom opener inner
    else closeFrom opener inner

theorem closeFrom_eq {final : Token} (ends : final.kind = .endOfFile) (opener : Token) (inner : Nat)
    (rest : List Token) :
    closeFrom opener inner final rest = (current >>= closeTurn opener inner) final rest := by
  cases rest with
  | nil =>
    change _ = closeTurn opener inner final final []
    unfold closeTurn
    rw [if_pos ends]
    rfl
  | cons token rest =>
    change _ = closeTurn opener inner token final (token :: rest)
    unfold closeFrom closeTurn
    rw [afterGroup.eq_def]
    by_cases ended : token.kind = .endOfFile
    · simp only [ended, if_true]
      rfl
    · simp only [ended, if_false]
      change _ = (if token.opens then closeFrom opener (inner + 1)
        else if token.closes then
          match inner with
          | 0 => pure ()
          | inner + 1 => closeFrom opener inner
        else closeFrom opener inner : Reader Unit) final rest
      by_cases opens : token.opens = true
      · rw [if_pos opens, if_pos opens]
        rfl
      · rw [if_neg opens, if_neg opens]
        by_cases closes : token.closes = true
        · rw [if_pos closes, if_pos closes]
          cases inner <;> rfl
        · rw [if_neg closes, if_neg closes]
          rfl

end Reader

namespace Cursor

variable {α : Type} {tokens : Tokens} {price most given : Nat}

theorem follows_semicolons (worth : 0 < price) :
    Follows tokens price most 1 (fun _ => 0) semicolons Reader.semicolons := by
  have within (turns : Nat) : Follows tokens price turns 1 (fun _ => 0)
      (manyWithin nextSemicolon turns >>= fun _ => pure ()) Reader.semicolons := by
    induction turns with
    | zero => exact follows_of_few Nat.one_pos
    | succ turns ih =>
      rw [manyWithin, bind_assoc]
      refine follows_spend Nat.one_pos (.congr ?_ (Reader.semicolons_eq tokens.final_ends))
      rw [nextSemicolon, bind_assoc, bind_assoc]
      refine follows_acceptSemicolon.andThen (Nat.zero_le _) fun accepted => ?_
      cases accepted with
      | false => exact follows_pure _ (Nat.zero_le _)
      | true =>
        simp only [if_true, pure_bind, bind_assoc]
        exact ih.weaken (by omega) fun _ => by omega
  rw [semicolons, many, bind_assoc]
  exact follows_stepsLeft fun limit _ => within limit

section
variable {close : String} {item : Cursor α} {reader : Reader α} {more : Nat}

theorem follows_endedItem
    (follows : Follows tokens price most given (fun _ => more) item reader) :
    Follows tokens price most given (fun found => if found.isSome then more else given)
      (endedItem close item) (Reader.endedItem close reader) := by
  refine (follows_accept close).andThen (Nat.zero_le _) fun closed => ?_
  split
  · exact follows_pure _ (by simp)
  · refine follows.andThen (by omega) fun value => ?_
    refine follows_acceptSemicolon.andThen (Nat.zero_le _) fun accepted => ?_
    split
    · exact follows_pure _ (by simp)
    · refine (follows_look 0).andThen (Nat.zero_le _) fun token => ?_
      split
      · exact follows_pure _ (by simp)
      · exact follows_expected _

theorem follows_semicolonItem (worth : 0 < price)
    (follows : Follows tokens price most given (fun _ => more) item reader) :
    Follows tokens price most (given + 1) (fun found => if found.isSome then more else given)
      (semicolonItem close item) (Reader.semicolonItem close reader) := by
  rw [Reader.semicolonItem_eq]
  refine (follows_semicolons worth).andThen (Nat.le_add_left _ _) fun _ => ?_
  exact (follows_endedItem follows).weaken (by omega) fun _ => by omega

theorem follows_commaItem
    (follows : Follows tokens price most given (fun _ => more) item reader) :
    Follows tokens price most given (fun found => if found.isSome then more else given)
      (commaItem close item) (Reader.commaItem close reader) := by
  refine (follows_accept close).andThen (Nat.zero_le _) fun closed => ?_
  split
  · exact follows_pure _ (by simp)
  · refine follows.andThen (by omega) fun value => ?_
    refine (follows_accept ",").andThen (Nat.zero_le _) fun accepted => ?_
    split
    · exact follows_pure _ (by simp)
    · refine (follows_look 0).andThen (Nat.zero_le _) fun token => ?_
      split
      · exact follows_pure _ (by simp)
      · exact follows_expected _

theorem manyWithin_semicolonOrItem (turns : Nat) :
    (manyWithin (semicolonOrItem close item) (turns + 1) >>= fun parts => pure parts.flatten) =
      spend >>= fun _ => acceptSemicolon >>= fun accepted =>
        if accepted then manyWithin (semicolonOrItem close item) turns >>= fun parts =>
          pure parts.flatten
        else endedItem close item >>= fun found => match found with
          | none => pure []
          | some value => (manyWithin (semicolonOrItem close item) turns >>= fun parts =>
            pure parts.flatten) >>= fun later => pure (value :: later) := by
  rw [manyWithin, bind_assoc]
  congr 1
  funext _
  rw [bind_assoc]
  generalize manyWithin (semicolonOrItem close item) turns = loop
  rw [semicolonOrItem, bind_assoc]
  congr 1
  funext accepted
  cases accepted with
  | true => simp only [if_true, pure_bind, bind_assoc, List.flatten_cons, List.nil_append]
  | false =>
    simp only [Bool.false_eq_true, if_false, bind_assoc, pure_bind]
    congr 1
    funext found
    cases found with
    | none => rfl
    | some value =>
      simp only [Option.map_some, bind_assoc, pure_bind, List.flatten_cons, List.singleton_append]

/-- A loop with a turn for every semicolon does what one with a loop over semicolons in it does. -/
theorem follows_semicolonOrItem (worth : given < price)
    (follows : Follows tokens price most given (fun _ => given + 1) item reader) :
    Follows tokens price most (given + 1) (fun _ => given)
      (many (semicolonOrItem close item) >>= fun parts => pure parts.flatten)
      (Reader.semicolonList close reader) := by
  have within (turns : Nat) (below : turns ≤ most) (limit : List Token) :
      Follows tokens price turns (given + 1) (fun _ => given)
        (manyWithin (semicolonOrItem close item) turns >>= fun parts => pure parts.flatten)
        (Reader.manyWithin (Reader.semicolonItem close reader) limit) := by
    induction turns generalizing limit with
    | zero => exact follows_of_few (Nat.succ_pos _)
    | succ turns ih =>
      cases limit with
      | nil => exact follows_exhausted
      | cons token limit =>
        rw [manyWithin_semicolonOrItem, Reader.manyWithin_semicolonItem]
        refine follows_spend (Nat.succ_pos _) ?_
        refine .congr ?_ (Reader.semicolons_bind_eq tokens.final_ends _)
        refine follows_acceptSemicolon.andThen (Nat.zero_le _) fun accepted => ?_
        cases accepted with
        | true =>
          -- A turn for a semicolon: the reader is still before the item that this turn was for.
          rw [if_pos rfl, if_pos rfl, if_pos rfl, ← Reader.manyWithin_semicolonItem close reader token]
          exact (ih (by omega) (token :: limit)).weaken (by omega) fun _ => by omega
        | false =>
          refine ((follows_endedItem follows).below (by omega)).andThen (by simp) fun found => ?_
          cases found with
          | none => exact follows_pure _ (by simp)
          | some value =>
            refine (ih (by omega) limit).andThen (by simp) fun later => ?_
            exact follows_pure _ (Nat.le_add_right _ _)
  rw [many, bind_assoc]
  refine follows_stepsLeft fun limit below index steps spare enough paid => ?_
  exact within limit below (tokens.final :: tokens.body.drop index) index steps spare enough paid

end

theorem closeWithin_eq (opener : Token) (turns depth : Nat) :
    closeWithin opener (turns + 1) depth = spend >>= fun _ => current >>= fun token =>
      if token.kind = .endOfFile then fail (.unclosed opener)
      else move 1 >>= fun _ =>
        if token.opens then closeWithin opener turns (depth + 1)
        else if token.closes then
          if depth = 0 then stuck .belowZero
          else if depth - 1 = 0 then pure ()
          else closeWithin opener turns (depth - 1)
        else closeWithin opener turns depth := by
  rw [closeWithin]
  congr 1
  funext _
  rw [advance, bind_assoc]
  congr 1
  funext token
  by_cases ends : token.kind = .endOfFile
  · simp only [if_pos ends, pure_bind]
  · simp only [if_neg ends, bind_assoc, pure_bind]

/-- Inside a group the depth is above zero, so it does not go below. -/
theorem follows_closeWithin (worth : 0 < price) (opener : Token) (turns inner : Nat) :
    Follows tokens price turns 1 (fun _ => price) (closeWithin opener turns (inner + 1))
      (Reader.closeFrom opener inner) := by
  induction turns generalizing inner with
  | zero => exact follows_of_few Nat.one_pos
  | succ turns ih =>
    have next (inner : Nat) : Follows tokens price turns (0 + price) (fun _ => price)
        (closeWithin opener turns (inner + 1)) (Reader.closeFrom opener inner) :=
      (ih inner).weaken (by omega) fun _ => by omega
    rw [closeWithin_eq]
    refine follows_spend Nat.one_pos (.congr ?_ (Reader.closeFrom_eq tokens.final_ends opener inner))
    refine follows_token ?_ fun index before => ?_
    · unfold Reader.closeTurn
      rw [if_pos tokens.final_ends, if_pos tokens.final_ends]
      exact follows_fail _
    · unfold Reader.closeTurn
      split
      · exact follows_fail _ index
      · refine FollowsAt.move before ?_
        split
        · exact next (inner + 1)
        · split
          · rw [if_neg (Nat.succ_ne_zero inner), Nat.add_sub_cancel]
            cases inner with
            | zero => exact follows_pure _ (by omega)
            | succ inner => exact next inner
          · exact next inner

theorem not_endOfFile_of_opens {token : Token} (opens : token.opens = true) :
    token.kind ≠ .endOfFile := by
  intro ends
  exact Reader.not_opens_of_ends ends opens

/-- The first turn of the loop reads the bracket that opens the group. -/
theorem closeWithin_opener {index : Nat} (before : index < tokens.body.length)
    (opens : tokens.body[index].opens = true) (opener : Token) (turns steps : Nat) :
    closeWithin opener (turns + 1) 0 tokens.toList index steps =
      (spend >>= fun _ => move 1 >>= fun _ => closeWithin opener turns 1) tokens.toList index
        steps := by
  rw [closeWithin_eq]
  cases steps with
  | zero => rfl
  | succ steps =>
    rw [spend_bind, spend_bind, current_bind _ before, if_neg (not_endOfFile_of_opens opens),
      if_pos opens]

theorem follows_group (worth : 0 < price) :
    Follows tokens price most 2 (fun _ => price) group Reader.group := by
  refine follows_spend (by omega) (follows_token ?_ fun index before => ?_)
  · have closed : ¬tokens.final.opens = true := Reader.not_opens_of_ends tokens.final_ends
    rw [if_neg closed, if_neg closed]
    exact follows_unexpected
  · split
    · next opens =>
      refine .stepsLeft fun limit below => ?_
      cases limit with
      | zero => exact follows_of_few (by omega) index
      | succ limit =>
        refine .congr (.spend (by omega) (.move before ?_)) (closeWithin_opener before opens _ limit) rfl
        exact (follows_closeWithin worth _ limit 0).weaken (by omega) fun _ => by omega
    · exact follows_unexpected index

theorem follows_groupOf (worth : 0 < price) (opening : String) :
    Follows tokens price most 2 (fun _ => price) (groupOf opening) (Reader.groupOf opening) := by
  refine (follows_look 0).andThen (Nat.zero_le _) fun token => ?_
  split
  · exact (follows_group worth).weaken (by omega) fun _ => by omega
  · exact follows_unexpected

/-- A scan takes a step for each token that is left, and one for the end mark. -/
theorem lookBehindWithin_eq {turns place depth index steps : Nat} (within : steps ≤ turns)
    (enough : ((tokens.body.drop index).drop place).length < steps) :
    ∃ remaining, lookBehindWithin turns place depth tokens.toList index steps =
        .done (tokenBehindGroup tokens.final depth ((tokens.body.drop index).drop place)) index
          remaining ∧
      steps ≤ remaining + ((tokens.body.drop index).drop place).length + 1 ∧ remaining ≤ steps := by
  induction turns generalizing place depth steps with
  | zero => omega
  | succ turns ih =>
    cases steps with
    | zero => omega
    | succ steps =>
      rw [lookBehindWithin, spend_bind, look_bind]
      cases left : (tokens.body.drop index).drop place with
      | nil =>
        rw [List.headD_nil, if_pos tokens.final_ends]
        exact ⟨steps, rfl, Nat.le_refl _, Nat.le_succ _⟩
      | cons token rest =>
        rw [left, List.length_cons] at enough
        have behind : (tokens.body.drop index).drop (place + 1) = rest := by
          rw [← List.drop_drop, left, List.drop_one, List.tail_cons]
        have later (depth : Nat) : ∃ remaining,
            lookBehindWithin turns (place + 1) depth tokens.toList index steps =
                .done (tokenBehindGroup tokens.final depth rest) index remaining ∧
              steps + 1 ≤ remaining + (rest.length + 1) + 1 ∧ remaining ≤ steps + 1 := by
          obtain ⟨remaining, same, kept, fewer⟩ :=
            @ih (place + 1) depth steps (by omega) (by rw [behind]; omega)
          rw [behind] at same kept
          exact ⟨remaining, same, by omega, by omega⟩
        rw [List.headD_cons, tokenBehindGroup, List.length_cons]
        split
        · exact ⟨steps, rfl, by omega, Nat.le_succ _⟩
        · split
          · exact later (depth + 1)
          · split
            · by_cases last : depth ≤ 1
              · rw [if_pos (by omega), if_pos last, look_eq, behind]
                exact ⟨steps, rfl, by omega, Nat.le_succ _⟩
              · rw [if_neg (by omega), if_neg last]
                exact later (depth - 1)
            · exact later depth

theorem follows_lookBehindGroup (count : Nat) :
    Follows tokens price most (tokens.body.length + 2) (fun _ => 0) (lookBehindGroup count)
      (Reader.lookBehindGroup count) := by
  refine follows_spend (by omega) (follows_stepsLeft fun limit _ => ?_)
  intro index steps spare within enough
  have shorter : ((tokens.body.drop index).drop count).length ≤ tokens.body.length := by
    simp only [List.length_drop]
    omega
  obtain ⟨remaining, same, kept, fewer⟩ := @lookBehindWithin_eq tokens limit count 0 index steps within
    (by omega)
  exact ⟨index, remaining, same, rfl, by dsimp only; omega, fewer⟩

end Cursor

end GoDto
