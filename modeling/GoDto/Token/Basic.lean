import GoDto.Source.Position
import GoDto.Text.Quoted

/-!
Tokens of Go source text. A token list is closed by an end mark, which has a position of its own.
-/

namespace GoDto

inductive Token.Kind where
  | identifier
  | keyword
  | number
  | string
  | rawString
  | rune
  | operator
  | semicolon
  | endOfFile
  deriving DecidableEq, Repr

structure Token where
  kind : Token.Kind
  text : String
  position : Position
  deriving DecidableEq, Repr

namespace Token

def leftBrace : String := "\x7b"

def rightBrace : String := "\x7d"

def keywords : List String :=
  ["break", "case", "chan", "const", "continue", "default", "defer", "else", "fallthrough", "for",
    "func", "go", "goto", "if", "import", "interface", "map", "package", "range", "return",
    "select", "struct", "switch", "type", "var"]

/-- The semicolon that stands for a line break. -/
def lineEnd (position : Position) : Token := ⟨.semicolon, "\n", position⟩

def fileEnd (position : Position) : Token := ⟨.endOfFile, "", position⟩

/-- Whether the token is spelled `text`. The contents of a string literal never count as a
keyword, an operator or a bracket. -/
def is (token : Token) (text : String) : Bool :=
  token.kind != .string && token.kind != .rawString && token.text == text

def isLiteralString (token : Token) : Bool :=
  token.kind == .string || token.kind == .rawString

/-- An opening bracket of any of the three kinds. -/
def opens (token : Token) : Bool :=
  token.kind == .operator && ["(", "[", leftBrace].contains token.text

/-- A closing bracket of any of the three kinds. -/
def closes (token : Token) : Bool :=
  token.kind == .operator && [")", "]", rightBrace].contains token.text

/-- Whether a line break after the token ends a statement. -/
def mayEndStatement (token : Token) : Bool :=
  match token.kind with
  | .identifier | .number | .string | .rawString | .rune => true
  | .keyword => ["break", "continue", "fallthrough", "return"].contains token.text
  | .operator => ["++", "--", ")", "]", rightBrace].contains token.text
  | .semicolon | .endOfFile => false

/-- How a message names the token. -/
def display (token : Token) : String :=
  match token.kind with
  | .endOfFile => "end of file"
  | .semicolon => if token.text = "\n" then "newline" else Text.quoted token.text
  | _ => Text.quoted token.text

end Token

/-- Tokens up to and including an end mark. Nothing is ever read beyond the end mark. -/
structure Tokens where
  body : List Token
  final : Token
  final_ends : final.kind = .endOfFile

namespace Tokens

def toList (tokens : Tokens) : List Token := tokens.body ++ [tokens.final]

/-- A list read as tokens up to its last element, which has to be an end mark. Where there are no
tokens at all, the file ends where it starts. -/
def ofList? : List Token → Option Tokens
  | [] => some ⟨[], .fileEnd .start, rfl⟩
  | first :: rest =>
    let final := (first :: rest).getLast (by simp)
    if ends : final.kind = .endOfFile then some ⟨(first :: rest).dropLast, final, ends⟩ else none

end Tokens

end GoDto
