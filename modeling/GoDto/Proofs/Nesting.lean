import GoDto.Proofs.Brackets

/-!
Brackets closed by their own kind. Counting does not tell the kinds of brackets apart. Tokens are nested
if it is always the innermost open bracket that is closed, by the closing one of its kind. Where the
counts agree, nesting is a matter of each stretch on its own.
-/

namespace GoDto

/-- What closes an opening bracket that is spelled so -/
def closingOf (opening : String) : String :=
  if opening = "(" then ")" else if opening = "[" then "]" else Token.rightBrace

/-- What is to close the brackets that are open behind a token, innermost first. There is no answer if
the token closes a bracket of another kind, or none at all. -/
def awaitedBehind (awaited : List String) (token : Token) : Option (List String) :=
  if token.opens then some (closingOf token.text :: awaited)
  else if token.closes then
    match awaited with
    | [] => none
    | closing :: outer => if token.text = closing then some outer else none
  else some awaited

/-- What is to close the brackets that are open behind all of the tokens -/
def awaitedBehindAll (awaited : List String) (tokens : List Token) : Option (List String) :=
  tokens.foldlM awaitedBehind awaited

/-- Each bracket is closed by one of its own kind, and nothing else is closed. -/
def Nested (tokens : List Token) : Prop := awaitedBehindAll [] tokens = some []

instance (tokens : List Token) : Decidable (Nested tokens) := inferInstanceAs (Decidable (_ = _))

section
variable {awaited outer : List String} {closing : String} {token : Token} {rest : List Token}

theorem awaitedBehindAll_cons_opens (opens : token.opens) : awaitedBehindAll awaited (token :: rest) =
    awaitedBehindAll (closingOf token.text :: awaited) rest := by
  simp [awaitedBehindAll, awaitedBehind, opens]

theorem awaitedBehindAll_cons_closes (closes : token.closes) :
    awaitedBehindAll (closing :: awaited) (token :: rest) =
      if token.text = closing then awaitedBehindAll awaited rest else none := by
  have opens := Token.not_opens_of_closes closes
  by_cases same : token.text = closing <;> simp [awaitedBehindAll, awaitedBehind, opens, closes, same]

theorem awaitedBehindAll_cons_other (opens : token.opens = false) (closes : token.closes = false) :
    awaitedBehindAll awaited (token :: rest) = awaitedBehindAll awaited rest := by
  simp [awaitedBehindAll, awaitedBehind, opens, closes]

theorem awaitedBehindAll_append (awaited : List String) (front back : List Token) :
    awaitedBehindAll awaited (front ++ back) =
      (awaitedBehindAll awaited front).bind (awaitedBehindAll · back) := by
  rw [awaitedBehindAll, List.foldlM_append]
  rfl

end

section
variable {front back : List Token} {opener closer token : Token}

/-- Tokens that close all brackets open before close them in the same way inside of others. -/
theorem awaitedBehindAll_of_settles {awaited outer : List String} (settles : Settles awaited.length front) :
    awaitedBehindAll (awaited ++ outer) front =
      if awaitedBehindAll awaited front = some [] then some outer else none := by
  induction front generalizing awaited with
  | nil =>
    obtain rfl := List.length_eq_zero_iff.1 (settles_nil.1 settles)
    rfl
  | cons token front ih =>
    by_cases opens : token.opens
    · have inner : Settles (closingOf token.text :: awaited).length front :=
        (settles_cons_opens opens).1 settles
      rw [awaitedBehindAll_cons_opens opens, awaitedBehindAll_cons_opens opens]
      exact ih inner
    by_cases closes : token.closes
    · obtain ⟨positive, settles⟩ := (settles_cons_closes closes).1 settles
      obtain ⟨closing, awaited, rfl⟩ := List.exists_cons_of_length_pos positive
      rw [List.cons_append, awaitedBehindAll_cons_closes closes, awaitedBehindAll_cons_closes closes]
      by_cases same : token.text = closing
      · rw [if_pos same, if_pos same]
        exact ih settles
      · rw [if_neg same, if_neg same]
        rfl
    · have other : token.opens = false ∧ token.closes = false := by simpa using And.intro opens closes
      rw [awaitedBehindAll_cons_other other.1 other.2, awaitedBehindAll_cons_other other.1 other.2]
      exact ih ((settles_cons_other other.1 other.2).1 settles)

/-- Balanced tokens leave open what was open, or are not nested. -/
theorem awaitedBehindAll_of_balanced (balanced : Balanced front) (awaited : List String) :
    awaitedBehindAll awaited front = if Nested front then some awaited else none := by
  have settles : Settles ([] : List String).length front := balanced
  exact awaitedBehindAll_of_settles settles

theorem nested_append (balanced : Balanced front) : Nested (front ++ back) ↔ Nested front ∧ Nested back := by
  rw [Nested, awaitedBehindAll_append, awaitedBehindAll_of_balanced balanced]
  by_cases nested : Nested front
  · simp only [nested, if_true, Option.bind_some, true_and]
    rfl
  · simp [nested]

theorem nested_cons (opens : token.opens = false) (closes : token.closes = false) :
    Nested (token :: back) ↔ Nested back := by
  rw [Nested, awaitedBehindAll_cons_other opens closes, Nested]

/-- A bracket and the one that closes it have to be of one kind. -/
theorem nested_pair (opens : opener.opens) (balanced : Balanced front) (closes : closer.closes) :
    Nested (opener :: (front ++ closer :: back)) ↔
      closer.text = closingOf opener.text ∧ Nested front ∧ Nested back := by
  rw [Nested, awaitedBehindAll_cons_opens opens, awaitedBehindAll_append, awaitedBehindAll_of_balanced balanced]
  by_cases nested : Nested front
  · simp only [nested, if_true, Option.bind_some, true_and]
    rw [awaitedBehindAll_cons_closes closes]
    by_cases same : closer.text = closingOf opener.text
    · simp only [same, if_true, true_and]
      rfl
    · simp [same]
  · simp [nested]

end

end GoDto
