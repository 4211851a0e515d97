import GoDto.Syntax.Type

/-!
Reading source files: the package clause, and the top-level declarations of which only types are
kept.
-/

namespace GoDto

/-- What a top-level declaration starts with. -/
inductive DeclHead where
  | type
  | other
  deriving DecidableEq, Repr

namespace DeclHead

def keywords : List (String × DeclHead) :=
  [("type", type), ("import", other), ("func", other), ("var", other), ("const", other)]

def ofToken? (token : Token) : Option DeclHead :=
  if token.kind = .keyword then keywords.lookup token.text else none

end DeclHead

/-- Whether an identifier between an opening bracket and this token is a type parameter. Otherwise
it belongs to the length of an array. -/
def Token.followsTypeParameter (token : Token) : Bool :=
  match token.kind with
  | .identifier => true
  | .keyword => ["interface", "func", "map", "chan", "struct"].contains token.text
  | .operator => [",", "~", "[", "("].contains token.text
  | _ => false

namespace Reader

/-- The end of a declaration: a semicolon, or nothing at the end of the file. -/
def declEnd : Reader Unit := do
  if ← acceptSemicolon then pure ()
  else if ← atEnd then pure ()
  else expected (.text ";")

def startsTypeParameters : Reader Bool := do
  let opening ← current
  let parameter ← lookahead 1
  let next ← lookahead 2
  pure (opening.is "[" && parameter.kind == .identifier && next.followsTypeParameter)

def typeParameters : Reader Unit := do
  if ← startsTypeParameters then group else pure ()

def typeSpec : Reader TypeDecl := do
  let name ← identifier
  typeParameters
  let isAlias ← accept "="
  let type ← type
  pure ⟨name.text, name.position, isAlias, type⟩

def typeSpecs : Reader (List TypeDecl) := do
  if ← accept "(" then semicolonList ")" typeSpec
  else do
    let decl ← typeSpec
    pure [decl]

/-- What follows the word `type`: one declaration, or several in parentheses. -/
def typeDecls : Reader (List TypeDecl) := do
  let decls ← typeSpecs
  declEnd
  pure decls

/-- A token that can neither end a declaration nor the file. -/
def plainToken : Reader (Option Unit) := do
  let token ← current
  if token.kind ≠ .semicolon ∧ token.kind ≠ .endOfFile then do
    step
    pure (some ())
  else pure none

/-- A token or a whole group of a declaration that is passed over. -/
def declPart : Reader (Option Unit) := do
  let token ← current
  if token.opens then do
    group
    pure (some ())
  else if token.closes then unexpected
  else plainToken

/-- Passes over a declaration up to the first semicolon outside its brackets. -/
def otherDecl : Reader Unit := do
  let _ ← many declPart
  declEnd

def declFrom : Option DeclHead → Reader (List TypeDecl)
  | some .type => do
    step
    typeDecls
  | some .other => do
    step
    otherDecl
    pure []
  | none => unexpected

def decl : Reader (List TypeDecl) := do
  let first ← current
  declFrom (DeclHead.ofToken? first)

def nextDecl : Reader (Option (List TypeDecl)) := do
  semicolons
  if ← atEnd then pure none
  else do
    let decls ← decl
    pure (some decls)

def file : Reader SourceFile := do
  semicolons
  require "package"
  let package ← identifier
  declEnd
  let decls ← many nextDecl
  pure ⟨package.text, decls.flatten⟩

end Reader

end GoDto
