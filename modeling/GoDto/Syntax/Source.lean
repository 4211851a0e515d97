import GoDto.Syntax.Progress
import GoDto.Token.Layout

/-!
Source files from tokens and from text. A text is refused either because it does not fall into
tokens or because its tokens are no source file; both faults are reported in one form.
-/

namespace GoDto

namespace SourceFile

def ofTokens (tokens : Tokens) : Except SyntaxError SourceFile :=
  match outcome : Reader.file tokens.final tokens.body with
  | .done file _ => .ok file
  | .failed error => .error error
  | .exhausted => absurd outcome (Reader.file_ne_exhausted tokens.final_ends _)

end SourceFile

inductive SourceError where
  | lexical (error : LexicalError)
  | syntactic (error : SyntaxError)
  deriving DecidableEq, Repr

def SourceError.diagnostic : SourceError → Diagnostic
  | lexical error => ⟨error.position, error.fault.message⟩
  | syntactic error => error.diagnostic

def SourceFile.ofText (text : String) : Except SourceError SourceFile :=
  match Tokens.ofText text with
  | .error error => .error (.lexical error)
  | .ok tokens =>
    match SourceFile.ofTokens tokens with
    | .error error => .error (.syntactic error)
    | .ok file => .ok file

end GoDto
