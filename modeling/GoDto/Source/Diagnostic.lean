import GoDto.Source.Position

/-!
A fault of a source text in the form in which it is reported.
-/

namespace GoDto

structure Diagnostic where
  position : Position
  message : String
  deriving DecidableEq, Repr

def Diagnostic.text (diagnostic : Diagnostic) : String :=
  "Parse error at line " ++ toString diagnostic.position.line ++ ", column " ++
    toString diagnostic.position.column ++ ": " ++ diagnostic.message

end GoDto
