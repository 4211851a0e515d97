import GoDto.Token.Basic
import GoDto.Token.Lexeme

/-!
From lexemes to tokens. Comments and blanks are dropped, but where one of them holds a line break
and the token before it may end a statement, a semicolon takes its place. `Tokens.ofText` reads a
whole text; it fails at the first place where no lexeme can be read.
-/

namespace GoDto

namespace Lexeme

/-- The kind of token that a lexeme stands for; comments and blanks stand for none. A name is a
keyword or an identifier, and a number whose first digit is no ASCII digit is an operator. -/
def kind? (lexeme : Lexeme) : Option Token.Kind :=
  match lexeme.shape with
  | .comment | .blank => none
  | .string => some .string
  | .rawString => some .rawString
  | .rune => some .rune
  | .name =>
    some (if Token.keywords.contains (String.ofList lexeme.text) then .keyword else .identifier)
  | .number =>
    let digits := if lexeme.text.head? = some '.' then lexeme.text.tail else lexeme.text
    some (if digits.head?.any Char.isDigit then .number else .operator)
  | .operator => some (if lexeme.text = [';'] then .semicolon else .operator)

/-- The tokens among lexemes that start at `position`. The flag tells whether a line break there
ends a statement; the end of the text is as good as a line break. -/
def layOut (ends : Bool) (position : Position) : List Lexeme → List Token
  | [] => if ends then [.lineEnd position] else []
  | lexeme :: rest =>
    let next := position.after lexeme.text
    match lexeme.kind? with
    | none =>
      if ends && lexeme.text.contains '\n' then .lineEnd position :: layOut false next rest
      else layOut ends next rest
    | some kind =>
      let token : Token := ⟨kind, String.ofList lexeme.text, position⟩
      token :: layOut token.mayEndStatement next rest

end Lexeme

/-- Why no lexeme can be read at some place. -/
inductive LexicalFault where
  | openComment
  | openString
  | openRawString
  | openRune
  | unreadable (text : String)
  deriving DecidableEq, Repr

namespace LexicalFault

/-- The fault of a text that starts with no lexeme. -/
def ofStuck (text : List Char) : LexicalFault :=
  if Lexeme.opensComment text then .openComment
  else
    match text.head? with
    | some '"' => .openString
    | some '\x60' => .openRawString
    | some '\'' => .openRune
    | _ => .unreadable (String.ofList (Lexeme.unreadable text))

def message : LexicalFault → String
  | openComment => "Unterminated comment"
  | openString => "Unterminated string literal"
  | openRawString => "Unterminated raw string literal"
  | openRune => "Unterminated rune literal"
  | unreadable text => "Syntax error: " ++ Text.quoted text

end LexicalFault

structure LexicalError where
  position : Position
  fault : LexicalFault
  deriving DecidableEq, Repr

def Tokens.ofText (text : String) : Except LexicalError Tokens :=
  match Lexeme.all text.toList with
  | (lexemes, []) =>
    .ok ⟨Lexeme.layOut false .start lexemes, .fileEnd (Position.start.after text.toList), rfl⟩
  | (lexemes, stuck) =>
    .error ⟨Position.start.after (lexemes.flatMap Lexeme.text), .ofStuck stuck⟩

end GoDto
