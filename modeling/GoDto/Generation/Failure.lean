import GoDto.Files.Access
import GoDto.Source.Diagnostic

/-!
Why no DTO could be made.
-/

namespace GoDto

inductive Failure where
  | invalidSource (diagnostic : Diagnostic)
  | structNotFound (name label : String)
  | file (error : FileError)
  deriving DecidableEq, Repr

def Failure.text : Failure → String
  | invalidSource diagnostic => diagnostic.text
  | structNotFound name label => "Struct \"" ++ name ++ "\" not found in file " ++ label
  | file error => "I/O error: " ++ error.text

end GoDto
