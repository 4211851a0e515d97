import GoDto.Proofs.Cursor
import GoDto.Proofs.Readers

/-!
Cursors that do what a reader does. The tokens that a reader still has are those from the cursor's
number on, and none if that is behind the last one. Steps are paid for by the tokens that are read:
each is worth a price, and what is left of it may be spent later.
-/

namespace GoDto

variable {α β : Type}

namespace Tokens

variable {tokens : Tokens} {place : Nat}

theorem length_toList (tokens : Tokens) : tokens.toList.length = tokens.body.length + 1 := by
  simp [toList]

theorem drop_toList (inside : place ≤ tokens.body.length) :
    tokens.toList.drop place = tokens.body.drop place ++ [tokens.final] := by
  rw [toList, List.drop_append_of_le_length inside]

theorem getElem?_toList (inside : place ≤ tokens.body.length) :
    tokens.toList[place]? = some ((tokens.body.drop place).headD tokens.final) := by
  rw [← List.head?_drop, drop_toList inside]
  cases tokens.body.drop place <;> rfl

theorem lt_of_drop {first : Token} {rest : List Token} (left : tokens.body.drop place = first :: rest) :
    place < tokens.body.length := by
  apply Nat.lt_of_not_le
  intro beyond
  rw [List.drop_eq_nil_of_le beyond] at left
  cases left

end Tokens

namespace Reader

/-- What a turn of a loop gives, with `behind` done in the turn that ends the loop -/
def endingWith (behind : Reader Unit) : Option α → Reader (Option α)
  | none => behind >>= fun _ => pure none
  | some value => pure (some value)

/-- What is done behind a loop may as well be done in its last turn. -/
theorem manyWithin_andThen (reader : Reader (Option α)) (behind : Reader Unit) (token : Token)
    (limit : List Token) :
    (manyWithin reader (token :: limit) >>= fun values => behind >>= fun _ => pure values) =
      (reader >>= endingWith behind) >>= fun found => match found with
        | none => pure []
        | some value => (manyWithin reader limit >>= fun values => behind >>= fun _ =>
          pure values) >>= fun later => pure (value :: later) := by
  rw [manyWithin, bind_assoc, bind_assoc]
  congr 1
  funext found
  cases found with
  | none => simp only [endingWith, pure_bind, bind_assoc]
  | some value => simp only [endingWith, pure_bind, bind_assoc]

end Reader

namespace Run

variable {run : Run α} {body : List Token} {goal goal' : α → List Token → Nat → Prop}
  {outcome : Outcome α}

/-- Whether a run comes to what a reader comes to. Nothing is asked where the reader comes to no end. -/
def Meets (run : Run α) (body : List Token) (goal : α → List Token → Nat → Prop) :
    Outcome α → Prop
  | .done value rest => ∃ index steps,
    run = .done value index steps ∧ rest = body.drop index ∧ goal value rest steps
  | .failed error => run = .failed error
  | .exhausted => True

theorem Meets.imp (meets : run.Meets body goal outcome)
    (further : ∀ value rest steps, goal value rest steps → goal' value rest steps) :
    run.Meets body goal' outcome := by
  cases outcome with
  | done value rest =>
    obtain ⟨index, steps, same, reached, kept⟩ := meets
    exact ⟨index, steps, same, reached, further value rest steps kept⟩
  | failed error => exact meets
  | exhausted => trivial

end Run

namespace Cursor

/-- Whether the cursor does from `index` on what the reader does. Besides the price of every token
before the end, it needs `given` steps for that, and `left` are there at the end besides the price of
the tokens that are left. Whatever more there are stay there. -/
def FollowsAt (tokens : Tokens) (price most given : Nat) (left : α → Nat) (cursor : Cursor α)
    (reader : Reader α) (index : Nat) : Prop :=
  ∀ steps spare, steps ≤ most →
    price * (tokens.body.drop index).length + given + spare ≤ steps →
    (cursor tokens.toList index steps).Meets tokens.body
      (fun value rest after => price * rest.length + left value + spare ≤ after ∧ after ≤ steps)
      (reader tokens.final (tokens.body.drop index))

/-- Whether the cursor does what the reader does, wherever both start with at most so many steps -/
def Follows (tokens : Tokens) (price most given : Nat) (left : α → Nat) (cursor : Cursor α)
    (reader : Reader α) : Prop :=
  ∀ index, FollowsAt tokens price most given left cursor reader index

section
variable {tokens : Tokens} {price most given : Nat} {left : α → Nat}

theorem look_eq (tokens : Tokens) (count index steps : Nat) :
    look count tokens.toList index steps =
      .done (((tokens.body.drop index).drop count).headD tokens.final) index steps := by
  have found : tokens.toList[min (index + count) tokens.body.length]? =
      some (((tokens.body.drop index).drop count).headD tokens.final) := by
    have same : tokens.body.drop (min (index + count) tokens.body.length) =
        tokens.body.drop (index + count) := List.drop_eq_drop_iff.2 (by omega)
    rw [List.drop_drop, Tokens.getElem?_toList (Nat.min_le_right _ _), same]
  simp only [look, tokens.length_toList, found]

theorem look_bind (count : Nat) (second : Token → Cursor β) (index steps : Nat) :
    (look count >>= second) tokens.toList index steps =
      second (((tokens.body.drop index).drop count).headD tokens.final) tokens.toList index steps := by
  change andThen (look count) second tokens.toList index steps = _
  rw [andThen, look_eq]

theorem drop_inside {index : Nat} (before : index < tokens.body.length) :
    tokens.body.drop index = tokens.body[index] :: tokens.body.drop (index + 1) :=
  List.drop_eq_getElem_cons before

theorem current_bind (second : Token → Cursor β) {index : Nat} (before : index < tokens.body.length)
    (steps : Nat) : (current >>= second) tokens.toList index steps =
      second tokens.body[index] tokens.toList index steps := by
  rw [current, look_bind, drop_inside before]
  rfl

theorem readerCurrent_bind (next : Token → Reader β) {index : Nat}
    (before : index < tokens.body.length) :
    (Reader.current >>= next) tokens.final (tokens.body.drop index) =
      next tokens.body[index] tokens.final (tokens.body.drop index) := by
  rw [drop_inside before]
  rfl

theorem spend_bind (cursor : Cursor α) (list : List Token) (index steps : Nat) :
    (spend >>= fun _ => cursor) list index (steps + 1) = cursor list index steps := rfl

theorem FollowsAt.weaken {cursor : Cursor α} {reader : Reader α} {index given' : Nat}
    {left' : α → Nat} (follows : FollowsAt tokens price most given left cursor reader index)
    (more : given ≤ given') (fewer : ∀ value, left' value + given ≤ left value + given') :
    FollowsAt tokens price most given' left' cursor reader index := by
  intro steps spare within enough
  refine (follows steps (spare + (given' - given)) within (by omega)).imp ?_
  intro value rest after ⟨kept, fewest⟩
  have same := fewer value
  exact ⟨by omega, fewest⟩

theorem Follows.weaken {cursor : Cursor α} {reader : Reader α} {given' : Nat} {left' : α → Nat}
    (follows : Follows tokens price most given left cursor reader)
    (more : given ≤ given') (fewer : ∀ value, left' value + given ≤ left value + given') :
    Follows tokens price most given' left' cursor reader :=
  fun index => (follows index).weaken more fewer

theorem Follows.below {cursor : Cursor α} {reader : Reader α} {fewest : Nat}
    (follows : Follows tokens price most given left cursor reader) (below : fewest ≤ most) :
    Follows tokens price fewest given left cursor reader :=
  fun index steps spare within enough => follows index steps spare (Nat.le_trans within below) enough

theorem FollowsAt.congr {cursor other : Cursor α} {reader instead : Reader α} {index : Nat}
    (follows : FollowsAt tokens price most given left cursor reader index)
    (same : ∀ steps, other tokens.toList index steps = cursor tokens.toList index steps)
    (read : instead tokens.final (tokens.body.drop index) =
      reader tokens.final (tokens.body.drop index)) :
    FollowsAt tokens price most given left other instead index := by
  intro steps spare within enough
  rw [same, read]
  exact follows steps spare within enough

theorem Follows.congr {cursor : Cursor α} {reader instead : Reader α}
    (follows : Follows tokens price most given left cursor reader)
    (read : ∀ rest, instead tokens.final rest = reader tokens.final rest) :
    Follows tokens price most given left cursor instead :=
  fun index => (follows index).congr (fun _ => rfl) (read _)

/-- What needs a step cannot be asked for where there is none. -/
theorem follows_of_few {cursor : Cursor α} {reader : Reader α} (few : most < given) :
    Follows tokens price most given left cursor reader := by
  intro index steps spare within enough
  omega

theorem Follows.andThen {first : Cursor α} {reader : Reader α} {second : α → Cursor β}
    {next : α → Reader β} {left' : β → Nat} {given' : Nat}
    (follows : Follows tokens price most given left first reader) (enough : given ≤ given')
    (later : ∀ value, Follows tokens price most (left value + (given' - given)) left' (second value)
      (next value)) :
    Follows tokens price most given' left' (first >>= second) (reader >>= next) := by
  intro index steps spare within paid
  have settled := follows index steps (spare + (given' - given)) within (by omega)
  rw [Reader.bind_apply]
  change (Cursor.andThen first second tokens.toList index steps).Meets _ _ _
  unfold Cursor.andThen
  cases outcome : reader tokens.final (tokens.body.drop index) with
  | done value rest =>
    rw [outcome] at settled
    obtain ⟨index', steps', same, rfl, kept, fewer⟩ := settled
    rw [same]
    refine (later value index' steps' spare (by omega) (by omega)).imp ?_
    intro result rest after ⟨enough, fewest⟩
    exact ⟨enough, Nat.le_trans fewest fewer⟩
  | failed error =>
    rw [outcome] at settled
    rw [show first tokens.toList index steps = .failed error from settled]
    rfl
  | exhausted => trivial

theorem follows_pure (value : α) (kept : left value ≤ given) :
    Follows tokens price most given left (pure value) (pure value) := by
  intro index steps spare within enough
  exact ⟨index, steps, rfl, rfl, by omega, Nat.le_refl _⟩

theorem follows_exhausted {cursor : Cursor α} :
    Follows tokens price most given left cursor Reader.exhausted :=
  fun _ _ _ _ _ => trivial

theorem follows_fail (error : SyntaxError) :
    Follows tokens price most given left (fail error) (Reader.fail error) :=
  fun _ _ _ _ _ => rfl

theorem follows_look (count : Nat) :
    Follows tokens price most 0 (fun _ => 0) (look count) (Reader.lookahead count) := by
  intro index steps spare within enough
  exact ⟨index, steps, look_eq .., rfl, by omega, Nat.le_refl _⟩

theorem follows_expected (what : Expectation) :
    Follows tokens price most given left (expected what) (Reader.expected what) :=
  (follows_look 0).andThen (Nat.zero_le _) fun _ => follows_fail _

theorem follows_unexpected :
    Follows tokens price most given left unexpected Reader.unexpected :=
  (follows_look 0).andThen (Nat.zero_le _) fun _ => follows_fail _

theorem follows_move : Follows tokens price most 0 (fun _ => 0) (move 1) Reader.step := by
  intro index steps spare within enough
  refine ⟨index + 1, steps, rfl, List.tail_drop, ?_, Nat.le_refl _⟩
  have fewer : (tokens.body.drop index).tail.length ≤ (tokens.body.drop index).length := by
    rw [List.length_tail]
    exact Nat.sub_le _ _
  have cheaper := Nat.mul_le_mul_left price fewer
  dsimp only
  omega

/-- Moving on inside the list reads a token, and its price is free. -/
theorem FollowsAt.move {index : Nat} {cursor : Cursor α} {reader : Reader α}
    (inside : index < tokens.body.length)
    (follows : Follows tokens price most (given + price) left cursor reader) :
    FollowsAt tokens price most given left (move 1 >>= fun _ => cursor)
      (Reader.step >>= fun _ => reader) index := by
  intro steps spare within enough
  have shorter : (tokens.body.drop index).length = (tokens.body.drop (index + 1)).length + 1 := by
    simp only [List.length_drop]
    omega
  have cheaper : price * (tokens.body.drop index).length =
      price * (tokens.body.drop (index + 1)).length + price := by
    rw [shorter, Nat.mul_add_one]
  change (cursor tokens.toList (index + 1) steps).Meets _ _
    (reader tokens.final (tokens.body.drop index).tail)
  rw [List.tail_drop]
  exact follows (index + 1) steps spare within (by omega)

/-- The token that is read next stands inside the list, or it is the end mark. -/
theorem follows_token {second : Token → Cursor β} {next : Token → Reader β} {left : β → Nat}
    (ending : Follows tokens price most given left (second tokens.final) (next tokens.final))
    (inside : ∀ index (before : index < tokens.body.length), FollowsAt tokens price most given left
      (second tokens.body[index]) (next tokens.body[index]) index) :
    Follows tokens price most given left (current >>= second) (Reader.current >>= next) := by
  intro index
  by_cases before : index < tokens.body.length
  · exact (inside index before).congr (current_bind second before) (readerCurrent_bind next before)
  · have nothing : tokens.body.drop index = [] := List.drop_eq_nil_of_le (by omega)
    refine (ending index).congr (fun steps => ?_) ?_
    · rw [current, look_bind, nothing]
      rfl
    · rw [nothing]
      rfl

theorem FollowsAt.spend {cursor : Cursor α} {reader : Reader α} {index : Nat} (some : 0 < given)
    (follows : FollowsAt tokens price (most - 1) (given - 1) left cursor reader index) :
    FollowsAt tokens price most given left (spend >>= fun _ => cursor) reader index := by
  intro steps spare within enough
  cases steps with
  | zero => omega
  | succ steps =>
    rw [spend_bind]
    refine (follows steps spare (by omega) (by omega)).imp ?_
    intro value rest after ⟨kept, fewer⟩
    exact ⟨kept, by omega⟩

theorem follows_spend {cursor : Cursor α} {reader : Reader α} (some : 0 < given)
    (follows : Follows tokens price (most - 1) (given - 1) left cursor reader) :
    Follows tokens price most given left (spend >>= fun _ => cursor) reader :=
  fun index => (follows index).spend some

theorem FollowsAt.stepsLeft {cursor : Nat → Cursor α} {reader : Reader α} {index : Nat}
    (follows : ∀ limit ≤ most, FollowsAt tokens price limit given left (cursor limit) reader index) :
    FollowsAt tokens price most given left (stepsLeft >>= cursor) reader index :=
  fun steps spare within enough => follows steps within steps spare (Nat.le_refl _) enough

theorem follows_stepsLeft {cursor : Nat → Cursor α} {reader : Reader α}
    (follows : ∀ limit ≤ most, Follows tokens price limit given left (cursor limit) reader) :
    Follows tokens price most given left (stepsLeft >>= cursor) reader :=
  fun index => .stepsLeft fun limit below => follows limit below index

end

instance : LawfulMonad Cursor := LawfulMonad.mk' Cursor
  (by
    intro α cursor
    funext tokens index steps
    change andThen cursor done tokens index steps = _
    unfold andThen
    cases cursor tokens index steps <;> rfl)
  (by intros; rfl)
  (by
    intro α β γ first second third
    funext tokens index steps
    change andThen (andThen first second) third tokens index steps =
      andThen first (fun value => andThen (second value) third) tokens index steps
    unfold andThen
    cases first tokens index steps <;> rfl)

section
variable {tokens : Tokens} {price most given : Nat} {left : α → Nat}

/-- A token that passes a test which the end mark fails is read for good. -/
theorem follows_one {test : Token → Prop} [DecidablePred test] {cursor otherwise : Token → Cursor α}
    {reader instead : Token → Reader α} (stops : ¬test tokens.final)
    (inside : ∀ token, Follows tokens price most (given + price) left (cursor token) (reader token))
    (outside : ∀ token, Follows tokens price most given left (otherwise token) (instead token)) :
    Follows tokens price most given left
      (current >>= fun token => if test token then move 1 >>= fun _ => cursor token
        else otherwise token)
      (Reader.current >>= fun token => if test token then Reader.step >>= fun _ => reader token
        else instead token) := by
  refine follows_token ?_ fun index before => ?_
  · rw [if_neg stops, if_neg stops]
    exact outside _
  · split
    · exact FollowsAt.move before (inside _)
    · exact outside _ index

theorem follows_accept (spelling : String) :
    Follows tokens price most 0 (fun _ => 0) (accept spelling) (Reader.accept spelling) := by
  refine (follows_look 0).andThen (Nat.zero_le _) fun token => ?_
  split
  · exact follows_move.andThen (Nat.zero_le _) fun _ => follows_pure _ (Nat.zero_le _)
  · exact follows_pure _ (Nat.zero_le _)

theorem follows_require (spelling : String) :
    Follows tokens price most 0 (fun _ => 0) (require spelling) (Reader.require spelling) := by
  refine (follows_accept spelling).andThen (Nat.zero_le _) fun accepted => ?_
  split
  · exact follows_pure _ (Nat.zero_le _)
  · exact follows_expected _

theorem follows_identifier :
    Follows tokens price most 0 (fun _ => price) identifier Reader.identifier := by
  refine follows_one (by simp [tokens.final_ends]) (fun _ => ?_) fun _ => follows_expected _
  exact follows_pure _ (Nat.le_add_left _ _)

theorem follows_acceptSemicolon :
    Follows tokens price most 0 (fun accepted => if accepted then price else 0) acceptSemicolon
      Reader.acceptSemicolon := by
  refine follows_one (by simp [tokens.final_ends]) (fun _ => ?_) fun _ => ?_
  · exact follows_pure _ (by simp)
  · exact follows_pure _ (by simp)

theorem follows_atEnd : Follows tokens price most 0 (fun _ => 0) atEnd Reader.atEnd :=
  (follows_look 0).andThen (Nat.zero_le _) fun _ => follows_pure _ (Nat.zero_le _)

theorem follows_declEnd : Follows tokens price most 0 (fun _ => 0) declEnd Reader.declEnd := by
  refine follows_acceptSemicolon.andThen (Nat.zero_le _) fun accepted => ?_
  split
  · exact follows_pure _ (Nat.zero_le _)
  · refine follows_atEnd.andThen (Nat.zero_le _) fun ended => ?_
    split
    · exact follows_pure _ (Nat.zero_le _)
    · exact follows_expected _

/-- A loop takes a step for each turn. A turn that gives something has to leave enough for the next
one. -/
theorem follows_many_andThen {item : Cursor (Option α)} {reader : Reader (Option α)}
    {behind : Reader Unit} {last : Nat}
    (follows : Follows tokens price most given
      (fun found => if found.isSome then given + 1 else last) item
      (reader >>= Reader.endingWith behind)) :
    Follows tokens price most (given + 1) (fun _ => last) (many item)
      (Reader.many reader >>= fun values => behind >>= fun _ => pure values) := by
  have within (turns : Nat) (below : turns ≤ most) (limit : List Token) :
      Follows tokens price turns (given + 1) (fun _ => last) (manyWithin item turns)
        (Reader.manyWithin reader limit >>= fun values => behind >>= fun _ => pure values) := by
    induction turns generalizing limit with
    | zero => exact follows_of_few (Nat.succ_pos _)
    | succ turns ih =>
      cases limit with
      | nil => exact follows_exhausted
      | cons token limit =>
        rw [manyWithin, Reader.manyWithin_andThen]
        refine follows_spend (Nat.succ_pos _) ?_
        refine (follows.below (by omega)).andThen (Nat.le_refl _) fun found => ?_
        cases found with
        | none => exact follows_pure _ (Nat.le_add_right _ _)
        | some value =>
          refine (ih (by omega) limit).andThen (by simp) fun later => ?_
          exact follows_pure _ (Nat.le_add_right _ _)
  refine follows_stepsLeft fun limit below index steps spare enough paid => ?_
  exact within limit below (tokens.final :: tokens.body.drop index) index steps spare enough paid

theorem follows_many {item : Cursor (Option α)} {reader : Reader (Option α)} {last : Nat}
    (follows : Follows tokens price most given
      (fun found => if found.isSome then given + 1 else last) item reader) :
    Follows tokens price most (given + 1) (fun _ => last) (many item) (Reader.many reader) := by
  have nothing : (Reader.endingWith (pure ()) : Option α → Reader (Option α)) = pure := by
    funext found
    cases found <;> rfl
  have looped := @follows_many_andThen α tokens price most given item reader (pure ()) last
    (by rwa [nothing, bind_pure])
  simpa only [pure_bind, bind_pure] using looped

end

end Cursor

end GoDto
