import GoDto.Syntax.Group
import GoDto.Syntax.Tree

/-!
Reading types. A type is told by its first token. The readers below that are named after a part of
a type are given the reader of the types inside it; `Reader.type` ties them together.
-/

namespace GoDto

/-- What a type starts with. -/
inductive TypeHead where
  | name
  | star
  | bracket
  | parenthesis
  | arrow
  | channel
  | map
  | function
  | interface
  | struct
  deriving DecidableEq, Repr

namespace TypeHead

def operators : List (String × TypeHead) :=
  [("*", star), ("[", bracket), ("(", parenthesis), ("<-", arrow)]

def keywords : List (String × TypeHead) :=
  [("chan", channel), ("map", map), ("func", function), ("interface", interface),
    ("struct", struct)]

def ofToken? (token : Token) : Option TypeHead :=
  match token.kind with
  | .identifier => some name
  | .operator => operators.lookup token.text
  | .keyword => keywords.lookup token.text
  | _ => none

end TypeHead

/-- Whether a field without a type of its own may end before this token. -/
def Token.endsField (token : Token) : Bool :=
  token.is Token.rightBrace || token.kind == .semicolon || token.isLiteralString

namespace Reader

/-- The type arguments of a generic type, counted. -/
def typeArguments (type : Reader GoType) : Reader Nat := do
  require "["
  let arguments ← commaList "]" type
  pure arguments.length

/-- A name that starts with the identifier `first`, which has been read. -/
def qualifiedName (first : Token) : Reader GoType := do
  if ← accept "." then do
    let selected ← identifier
    pure (.qualified (.name first.text) selected.text)
  else pure (.name first.text)

/-- A type that starts with the identifier `first`, which has been read. -/
def namedType (type : Reader GoType) (first : Token) : Reader GoType := do
  let named ← qualifiedName first
  if (← current).is "[" then do
    let count ← typeArguments type
    pure (.outline (if count = 1 then .instanceOfOne else .instanceOfMany))
  else pure named

/-- The parameters and the result of a function type. Parameters are passed over unread. -/
def signature (type : Reader GoType) : Reader Unit := do
  groupOf "("
  let result ← current
  if result.is "(" then group
  else if (TypeHead.ofToken? result).isSome then do
    let _ ← type
    pure ()
  else pure ()

/-- An identifier starts an embedded field if nothing but its own qualifier and type arguments
stands between it and the end of the field. -/
def startsEmbedded : Reader Bool := do
  let next ← lookahead 1
  if next.is "." || next.endsField then pure true
  else if next.is "[" then do
    let behind ← lookBehindGroup 1
    pure behind.endsField
  else pure false

/-- A further name of a field, after a comma. -/
def nextName : Reader (Option String) := do
  if ← accept "," then do
    let name ← identifier
    pure (some name.text)
  else pure none

def fieldNames : Reader (List String) := do
  let first ← identifier
  let later ← many nextName
  pure (first.text :: later)

/-- The names and the type of a field that starts with `first`, which has not been read. -/
def fieldParts (type : Reader GoType) (first : Token) : Reader (List String × GoType) := do
  if first.is "*" then do
    step
    let element ← type
    pure ([], .pointer element)
  else if first.kind = .identifier then do
    if ← startsEmbedded then do
      let embedded ← type
      pure ([], embedded)
    else do
      let names ← fieldNames
      let shared ← type
      pure (names, shared)
  else expected .fieldName

def fieldTag : Reader (Option String) := do
  let token ← current
  if token.isLiteralString then do
    step
    pure (some token.text)
  else pure none

def field (type : Reader GoType) : Reader (FieldDecl GoType) := do
  let first ← current
  let (names, shared) ← fieldParts type first
  let tag ← fieldTag
  pure ⟨names, first.position, shared, tag⟩

def structBody (type : Reader GoType) : Reader (List (FieldDecl GoType)) := do
  require Token.leftBrace
  semicolonList Token.rightBrace (field type)

/-- The length of an array type, which is passed over unread, up to the bracket that closes it. -/
def arrayLength (opener : Token) : Reader Unit := do
  if ← accept "]" then pure () else closeGroup opener

/-- What is left of a type whose first token `first`, of the kind `head`, has been read. -/
def typeAfter (type : Reader GoType) (first : Token) : TypeHead → Reader GoType
  | .name => namedType type first
  | .star => do
    let element ← type
    pure (.pointer element)
  | .bracket => do
    arrayLength first
    let element ← type
    pure (.sequence element)
  | .parenthesis => do
    let _ ← type
    require ")"
    pure (.outline .parenthesized)
  | .arrow => do
    require "chan"
    let _ ← type
    pure (.outline .channel)
  | .channel => do
    let _ ← accept "<-"
    let _ ← type
    pure (.outline .channel)
  | .map => do
    require "["
    let _ ← type
    require "]"
    let _ ← type
    pure (.outline .map)
  | .function => do
    signature type
    pure (.outline .function)
  | .interface => do
    groupOf Token.leftBrace
    pure (.outline .interface)
  | .struct => do
    let fields ← structBody type
    pure (.struct fields)

/-- A type that starts with `first`, which has not been read, if that is of any kind a type can
start with. -/
def typeFrom (type : Reader GoType) (first : Token) : Option TypeHead → Reader GoType
  | some head => do
    step
    typeAfter type first head
  | none => expected .type

def typeWith (type : Reader GoType) : Reader GoType := do
  let first ← current
  typeFrom type first (TypeHead.ofToken? first)

/-- A type in which types are nested less deep than the limit is long. -/
def typeWithin : List Token → Reader GoType
  | [] => exhausted
  | _ :: limit => typeWith (typeWithin limit)

/-- Every type inside a type starts at a later token, so there cannot be more levels than
tokens. -/
def type : Reader GoType := fun final rest => typeWithin (final :: rest) final rest

end Reader

end GoDto
