import GoDto.Syntax.Error

/-!
Readers of tokens. A reader is given the end mark of the file and the tokens before it that are
still to be read. Once these are used up it sees the end mark for ever.

A reader that repeats something does so within a limit, which is a list because the tokens left are
one. Running out of the limit is an outcome of its own, so it can be told from an error in the
file.
-/

namespace GoDto

inductive Outcome (α : Type) where
  | done (value : α) (rest : List Token)
  | failed (error : SyntaxError)
  | exhausted

def Reader (α : Type) : Type := Token → List Token → Outcome α

namespace Reader

variable {α β : Type}

def done (value : α) : Reader α := fun _ rest => .done value rest

def andThen (first : Reader α) (second : α → Reader β) : Reader β := fun final rest =>
  match first final rest with
  | .done value rest => second value final rest
  | .failed error => .failed error
  | .exhausted => .exhausted

instance : Monad Reader where
  pure := done
  bind := andThen

def fail (error : SyntaxError) : Reader α := fun _ _ => .failed error

def exhausted : Reader α := fun _ _ => .exhausted

/-- The token `count` places ahead, without reading it. -/
def lookahead (count : Nat) : Reader Token := fun final rest =>
  .done ((rest.drop count).headD final) rest

/-- The token that is read next. -/
def current : Reader Token := lookahead 0

def step : Reader Unit := fun _ rest => .done () rest.tail

def expected (what : Expectation) : Reader α := do fail (.expected what (← current))

def unexpected : Reader α := do fail (.unexpected (← current))

/-- Reads the token if it is spelled so, and tells whether it was. -/
def accept (spelling : String) : Reader Bool := do
  if (← current).is spelling then do
    step
    pure true
  else pure false

def require (spelling : String) : Reader Unit := do
  if ← accept spelling then pure () else expected (.text spelling)

def identifier : Reader Token := do
  let token ← current
  if token.kind = .identifier then do
    step
    pure token
  else expected .identifier

def acceptSemicolon : Reader Bool := do
  if (← current).kind = .semicolon then do
    step
    pure true
  else pure false

def semicolons : Reader Unit := fun _ rest => .done () (rest.dropWhile (·.kind == .semicolon))

def atEnd : Reader Bool := do
  let token ← current
  pure (token.kind == .endOfFile)

/-- What `item` gives until it gives nothing, started at most once for each element of the
limit. -/
def manyWithin (item : Reader (Option α)) : List Token → Reader (List α)
  | [] => exhausted
  | _ :: limit => do
    match ← item with
    | none => pure []
    | some value => do
      let later ← manyWithin item limit
      pure (value :: later)

/-- What `item` gives until it gives nothing. One start for each token left, the end mark
included, is enough for every item that reads a token whenever it gives something. -/
def many (item : Reader (Option α)) : Reader (List α) := fun final rest =>
  manyWithin item (final :: rest) final rest

/-- An item and the semicolon after it, unless `close` comes next. Semicolons may be repeated, and
before `close` there need not be one. -/
def semicolonItem (close : String) (item : Reader α) : Reader (Option α) := do
  semicolons
  if ← accept close then pure none
  else do
    let value ← item
    if ← acceptSemicolon then pure (some value)
    else if (← current).is close then pure (some value)
    else expected (.either ";" close)

def semicolonList (close : String) (item : Reader α) : Reader (List α) :=
  many (semicolonItem close item)

/-- An item and the comma after it, unless `close` comes next. Before `close` there need not be
one. -/
def commaItem (close : String) (item : Reader α) : Reader (Option α) := do
  if ← accept close then pure none
  else do
    let value ← item
    if ← accept "," then pure (some value)
    else if (← current).is close then pure (some value)
    else expected (.either "," close)

def commaList (close : String) (item : Reader α) : Reader (List α) :=
  many (commaItem close item)

end Reader

end GoDto
