import GoDto.Source.Diagnostic
import GoDto.Token.Basic

/-!
Why a token list is no source file. Each error names the token that it is about.
-/

namespace GoDto

inductive Expectation where
  | text (spelling : String)
  | either (first second : String)
  | identifier
  | type
  | fieldName
  deriving DecidableEq, Repr

def Expectation.display : Expectation → String
  | text spelling => Text.quoted spelling
  | either first second => Text.quoted first ++ " or " ++ Text.quoted second
  | identifier => "identifier"
  | type => "type"
  | fieldName => "field name"

inductive SyntaxError where
  | expected (what : Expectation) (found : Token)
  | unexpected (found : Token)
  | unclosed (opener : Token)
  deriving DecidableEq, Repr

namespace SyntaxError

def token : SyntaxError → Token
  | expected _ found => found
  | unexpected found => found
  | unclosed opener => opener

def message : SyntaxError → String
  | expected what found => "Expected " ++ what.display ++ " but found " ++ found.display
  | unexpected found => "Unexpected token " ++ found.display
  | unclosed opener => "Unclosed " ++ Text.quoted opener.text

def diagnostic (error : SyntaxError) : Diagnostic := ⟨error.token.position, error.message⟩

end SyntaxError

end GoDto
