import GoDto.Syntax.Source

/-!
A reader that has nothing but a list of tokens and the number of the next one. A number behind the
last token counts as the last, so it may go on to move there. What could go wrong is checked: every
access to the list, every subtraction, and the number of steps. Each turn of a loop takes one step,
and so does each call for a type or a part of one, for a group or for a declaration.
-/

namespace GoDto

/-- What stops a cursor besides an error in the file -/
inductive Fault where
  | outOfRange
  | belowZero
  | outOfSteps
  deriving DecidableEq, Repr

/-- What a cursor comes to. With a value there are the number of the next token and the steps that are
left. -/
inductive Run (α : Type) where
  | done (value : α) (index steps : Nat)
  | failed (error : SyntaxError)
  | stuck (fault : Fault)

/-- The value or the error in the file, if nothing else has stopped the cursor -/
def Run.answer? {α : Type} : Run α → Option (Except SyntaxError α)
  | .done value _ _ => some (.ok value)
  | .failed error => some (.error error)
  | .stuck _ => none

def Cursor (α : Type) : Type := List Token → Nat → Nat → Run α

namespace Cursor

variable {α β : Type}

def done (value : α) : Cursor α := fun _ index steps => .done value index steps

def andThen (first : Cursor α) (second : α → Cursor β) : Cursor β := fun tokens index steps =>
  match first tokens index steps with
  | .done value index steps => second value tokens index steps
  | .failed error => .failed error
  | .stuck fault => .stuck fault

instance : Monad Cursor where
  pure := done
  bind := andThen

def fail (error : SyntaxError) : Cursor α := fun _ _ _ => .failed error

def stuck (fault : Fault) : Cursor α := fun _ _ _ => .stuck fault

def stepsLeft : Cursor Nat := fun _ index steps => .done steps index steps

/-- Takes one step. -/
def spend : Cursor Unit := fun _ index steps =>
  match steps with
  | 0 => .stuck .outOfSteps
  | steps + 1 => .done () index steps

/-- The token `count` places ahead, or the last one -/
def look (count : Nat) : Cursor Token := fun tokens index steps =>
  match tokens.length with
  | 0 => .stuck .belowZero
  | last + 1 =>
    match tokens[min (index + count) last]? with
    | some token => .done token index steps
    | none => .stuck .outOfRange

def current : Cursor Token := look 0

def move (count : Nat) : Cursor Unit := fun _ index steps => .done () (index + count) steps

/-- Moves on, but not at the end of the file. -/
def advance : Cursor Token := do
  let token ← current
  if token.kind = .endOfFile then pure token
  else do
    move 1
    pure token

def expected (what : Expectation) : Cursor α := do fail (.expected what (← current))

def unexpected : Cursor α := do fail (.unexpected (← current))

def accept (spelling : String) : Cursor Bool := do
  if (← current).is spelling then do
    move 1
    pure true
  else pure false

def require (spelling : String) : Cursor Unit := do
  if ← accept spelling then pure () else expected (.text spelling)

def identifier : Cursor Token := do
  let token ← current
  if token.kind = .identifier then do
    move 1
    pure token
  else expected .identifier

def acceptSemicolon : Cursor Bool := do
  if (← current).kind = .semicolon then do
    move 1
    pure true
  else pure false

def atEnd : Cursor Bool := do
  let token ← current
  pure (token.kind == .endOfFile)

def declEnd : Cursor Unit := do
  if ← acceptSemicolon then pure ()
  else if ← atEnd then pure ()
  else expected (.text ";")

/-- A loop that goes on while `item` gives something. The limit is one of the steps that are left, so
it is not what ends the loop. -/
def manyWithin (item : Cursor (Option α)) : Nat → Cursor (List α)
  | 0 => stuck .outOfSteps
  | limit + 1 => do
    spend
    match ← item with
    | none => pure []
    | some value => do
      let later ← manyWithin item limit
      pure (value :: later)

def many (item : Cursor (Option α)) : Cursor (List α) := do
  manyWithin item (← stepsLeft)

def nextSemicolon : Cursor (Option Unit) := do
  if ← acceptSemicolon then pure (some ()) else pure none

def semicolons : Cursor Unit := do
  let _ ← many nextSemicolon
  pure ()

/-- The loop that reads brackets up to the one that brings their depth back to zero -/
def closeWithin (opener : Token) : Nat → Nat → Cursor Unit
  | 0, _ => stuck .outOfSteps
  | limit + 1, depth => do
    spend
    let token ← advance
    if token.kind = .endOfFile then fail (.unclosed opener)
    else if token.opens then closeWithin opener limit (depth + 1)
    else if token.closes then
      if depth = 0 then stuck .belowZero
      else if depth - 1 = 0 then pure ()
      else closeWithin opener limit (depth - 1)
    else closeWithin opener limit depth

def group : Cursor Unit := do
  spend
  let opener ← current
  if opener.opens then do
    let limit ← stepsLeft
    closeWithin opener limit 0
  else unexpected

def groupOf (opening : String) : Cursor Unit := do
  if (← current).is opening then group else unexpected

/-- The loop that looks for the token behind a group, where a depth of zero is not gone below -/
def lookBehindWithin : Nat → Nat → Nat → Cursor Token
  | 0, _, _ => stuck .outOfSteps
  | limit + 1, place, depth => do
    spend
    let token ← look place
    if token.kind = .endOfFile then pure token
    else if token.opens then lookBehindWithin limit (place + 1) (depth + 1)
    else if token.closes then
      if depth - 1 = 0 then look (place + 1) else lookBehindWithin limit (place + 1) (depth - 1)
    else lookBehindWithin limit (place + 1) depth

def lookBehindGroup (count : Nat) : Cursor Token := do
  spend
  let limit ← stepsLeft
  lookBehindWithin limit count 0

/-- An item and the semicolon that ends it, unless `close` comes next -/
def endedItem (close : String) (item : Cursor α) : Cursor (Option α) := do
  if ← accept close then pure none
  else do
    let value ← item
    if ← acceptSemicolon then pure (some value)
    else if (← current).is close then pure (some value)
    else expected (.either ";" close)

/-- A turn of a loop over such items -/
def semicolonItem (close : String) (item : Cursor α) : Cursor (Option α) := do
  semicolons
  endedItem close item

/-- A turn of a loop over such items, which is spent on a semicolon alone if there is one -/
def semicolonOrItem (close : String) (item : Cursor α) : Cursor (Option (List α)) := do
  if ← acceptSemicolon then pure (some [])
  else do
    let found ← endedItem close item
    pure (found.map fun value => [value])

def commaItem (close : String) (item : Cursor α) : Cursor (Option α) := do
  if ← accept close then pure none
  else do
    let value ← item
    if ← accept "," then pure (some value)
    else if (← current).is close then pure (some value)
    else expected (.either "," close)

def typeArguments (type : Cursor GoType) : Cursor Nat := do
  spend
  require "["
  let arguments ← many (commaItem "]" type)
  pure arguments.length

def qualifiedName (first : Token) : Cursor GoType := do
  if ← accept "." then do
    let selected ← identifier
    pure (.qualified (.name first.text) selected.text)
  else pure (.name first.text)

def namedType (type : Cursor GoType) (first : Token) : Cursor GoType := do
  let named ← qualifiedName first
  if (← current).is "[" then do
    let count ← typeArguments type
    pure (.outline (if count = 1 then .instanceOfOne else .instanceOfMany))
  else pure named

def signature (type : Cursor GoType) : Cursor Unit := do
  spend
  groupOf "("
  let result ← current
  if result.is "(" then group
  else if (TypeHead.ofToken? result).isSome then do
    let _ ← type
    pure ()
  else pure ()

def startsEmbedded : Cursor Bool := do
  let next ← look 1
  if next.is "." || next.endsField then pure true
  else if next.is "[" then do
    let behind ← lookBehindGroup 1
    pure behind.endsField
  else pure false

def nextName : Cursor (Option String) := do
  if ← accept "," then do
    let name ← identifier
    pure (some name.text)
  else pure none

def fieldNames : Cursor (List String) := do
  let first ← identifier
  let later ← many nextName
  pure (first.text :: later)

def fieldParts (type : Cursor GoType) (first : Token) : Cursor (List String × GoType) := do
  if first.is "*" then do
    move 1
    let element ← type
    pure ([], .pointer element)
  else if first.kind = .identifier then do
    if ← startsEmbedded then do
      let embedded ← type
      pure ([], embedded)
    else do
      let names ← fieldNames
      let shared ← type
      pure (names, shared)
  else expected .fieldName

def fieldTag : Cursor (Option String) := do
  let token ← current
  if token.isLiteralString then do
    move 1
    pure (some token.text)
  else pure none

def field (type : Cursor GoType) : Cursor (FieldDecl GoType) := do
  spend
  let first ← current
  let (names, shared) ← fieldParts type first
  let tag ← fieldTag
  pure ⟨names, first.position, shared, tag⟩

def structBody (type : Cursor GoType) : Cursor (List (FieldDecl GoType)) := do
  spend
  require Token.leftBrace
  let parts ← many (semicolonOrItem Token.rightBrace (field type))
  pure parts.flatten

/-- The brackets in front of an element type, with the length of an array if there is one -/
def arrayLength : Cursor Unit := do
  if (← look 1).is "]" then move 2 else group

def typeFrom (type : Cursor GoType) (first : Token) : TypeHead → Cursor GoType
  | .name => do
    move 1
    namedType type first
  | .star => do
    move 1
    let element ← type
    pure (.pointer element)
  | .bracket => do
    arrayLength
    let element ← type
    pure (.sequence element)
  | .parenthesis => do
    move 1
    let _ ← type
    require ")"
    pure (.outline .parenthesized)
  | .arrow => do
    move 1
    require "chan"
    let _ ← type
    pure (.outline .channel)
  | .channel => do
    move 1
    let _ ← accept "<-"
    let _ ← type
    pure (.outline .channel)
  | .map => do
    move 1
    require "["
    let _ ← type
    require "]"
    let _ ← type
    pure (.outline .map)
  | .function => do
    move 1
    signature type
    pure (.outline .function)
  | .interface => do
    move 1
    groupOf Token.leftBrace
    pure (.outline .interface)
  | .struct => do
    move 1
    let fields ← structBody type
    pure (.struct fields)

def typeWith (type : Cursor GoType) : Cursor GoType := do
  let first ← current
  match TypeHead.ofToken? first with
  | some head => typeFrom type first head
  | none => expected .type

/-- A type inside a type is a call inside a call, and each takes a step. -/
def typeWithin : Nat → Cursor GoType
  | 0 => stuck .outOfSteps
  | limit + 1 => do
    spend
    typeWith (typeWithin limit)

def type : Cursor GoType := do
  typeWithin (← stepsLeft)

def startsTypeParameters : Cursor Bool := do
  let opening ← current
  let parameter ← look 1
  let next ← look 2
  pure (opening.is "[" && parameter.kind == .identifier && next.followsTypeParameter)

def typeParameters : Cursor Unit := do
  if ← startsTypeParameters then group else pure ()

def typeSpec : Cursor TypeDecl := do
  spend
  let name ← identifier
  typeParameters
  let isAlias ← accept "="
  let type ← type
  pure ⟨name.text, name.position, isAlias, type⟩

def typeSpecs : Cursor (List TypeDecl) := do
  if ← accept "(" then many (semicolonItem ")" typeSpec)
  else do
    let decl ← typeSpec
    pure [decl]

def typeDecls : Cursor (List TypeDecl) := do
  spend
  let decls ← typeSpecs
  declEnd
  pure decls

/-- A turn of the loop that passes over a declaration. The turn that ends it reads its semicolon. -/
def declPart : Cursor (Option Unit) := do
  let token ← current
  if token.kind = .endOfFile then pure none
  else if token.kind = .semicolon then do
    move 1
    pure none
  else if token.opens then do
    group
    pure (some ())
  else if token.closes then unexpected
  else do
    move 1
    pure (some ())

def otherDecl : Cursor Unit := do
  spend
  let _ ← many declPart
  pure ()

def decl : Cursor (List TypeDecl) := do
  let first ← current
  match DeclHead.ofToken? first with
  | some .type => do
    move 1
    typeDecls
  | some .other => do
    move 1
    otherDecl
    pure []
  | none => unexpected

def nextDecl : Cursor (Option (List TypeDecl)) := do
  semicolons
  if ← atEnd then pure none
  else do
    let decls ← decl
    pure (some decls)

def file : Cursor SourceFile := do
  semicolons
  require "package"
  let package ← identifier
  declEnd
  let decls ← many nextDecl
  pure ⟨package.text, decls.flatten⟩

/-- Reads a whole list of tokens within so many steps. Without any token there is no first one to look
at. -/
def parse (tokens : List Token) (steps : Nat) : Run SourceFile :=
  match tokens with
  | [] => .failed (.expected (.text "package") (.fileEnd .start))
  | tokens => file tokens 0 steps

end Cursor

end GoDto
