import GoDto.Syntax.File

/-!
Laws of readers. One reader after another is a monad in the strict sense, and every reader that may
read a single token is a choice on the token that comes next.
-/

namespace GoDto.Reader

variable {α β : Type}

theorem bind_apply (first : Reader α) (second : α → Reader β) (final : Token)
    (rest : List Token) :
    (first >>= second) final rest =
      match first final rest with
      | .done value rest => second value final rest
      | .failed error => .failed error
      | .exhausted => .exhausted := rfl

theorem bind_of_done {first : Reader α} {second : α → Reader β} {final : Token}
    {rest left : List Token} {value : α} (read : first final rest = .done value left) :
    (first >>= second) final rest = second value final left := by
  rw [bind_apply, read]

theorem bind_eq_done {first : Reader α} {second : α → Reader β} {final : Token}
    {rest left : List Token} {result : β} :
    (first >>= second) final rest = .done result left ↔
      ∃ value between, first final rest = .done value between ∧
        second value final between = .done result left := by
  rw [bind_apply]
  cases outcome : first final rest with
  | done value between =>
    constructor
    · intro read
      exact ⟨value, between, rfl, read⟩
    · rintro ⟨_, _, same, read⟩
      cases same
      exact read
  | failed error => simp
  | exhausted => simp

instance : LawfulMonad Reader := LawfulMonad.mk' Reader
  (by
    intro α reader
    funext final rest
    change (reader >>= fun value => pure value) final rest = _
    rw [bind_apply]
    cases reader final rest <;> rfl)
  (by intros; rfl)
  (by
    intro α β γ first second third
    funext final rest
    simp only [bind_apply]
    cases first final rest <;> rfl)

theorem expected_bind (what : Expectation) (next : α → Reader β) :
    (expected what >>= next) = expected what := rfl

theorem unexpected_bind (next : α → Reader β) : (unexpected >>= next) = unexpected := rfl

theorem accept_bind (spelling : String) (next : Bool → Reader β) :
    (accept spelling >>= next) = current >>= fun token =>
      if token.is spelling then step >>= fun _ => next true else next false := by
  simp only [accept, bind_assoc]
  congr 1
  funext token
  split <;> simp only [bind_assoc, pure_bind]

theorem require_bind (spelling : String) (next : Unit → Reader β) :
    (require spelling >>= next) = current >>= fun token =>
      if token.is spelling then step >>= fun _ => next () else expected (.text spelling) := by
  simp only [require, bind_assoc, accept_bind]
  congr 1
  funext token
  split
  · simp only [if_true, bind_assoc, pure_bind]
  · simp only [Bool.false_eq_true, if_false, expected_bind]

theorem identifier_bind (next : Token → Reader β) :
    (identifier >>= next) = current >>= fun token =>
      if token.kind = .identifier then step >>= fun _ => next token else expected .identifier := by
  simp only [identifier, bind_assoc]
  congr 1
  funext token
  split
  · simp only [bind_assoc, pure_bind]
  · simp only [expected_bind]

theorem acceptSemicolon_bind (next : Bool → Reader β) :
    (acceptSemicolon >>= next) = current >>= fun token =>
      if token.kind = .semicolon then step >>= fun _ => next true else next false := by
  simp only [acceptSemicolon, bind_assoc]
  congr 1
  funext token
  split <;> simp only [bind_assoc, pure_bind]

theorem atEnd_bind (next : Bool → Reader β) :
    (atEnd >>= next) = current >>= fun token => next (token.kind == .endOfFile) := by
  simp only [atEnd, bind_assoc, pure_bind]

end GoDto.Reader
