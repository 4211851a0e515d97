import GoDto.Syntax.Tree

/-!
Types written out again. Names, pointers and sequences are spelled as they were, though without
the lengths of arrays; every other type is written as a placeholder for its shape.
-/

namespace GoDto

/-- The syntax node that a Go parser reports for the shape. -/
def Shape.placeholder : Shape → String
  | map => "*ast.MapType"
  | channel => "*ast.ChanType"
  | function => "*ast.FuncType"
  | interface => "*ast.InterfaceType"
  | parenthesized => "*ast.ParenExpr"
  | instanceOfOne => "*ast.IndexExpr"
  | instanceOfMany => "*ast.IndexListExpr"

namespace GoType

def spelling : GoType → String
  | name text => text
  | qualified base text => base.spelling ++ "." ++ text
  | pointer element => "*" ++ element.spelling
  | sequence element => "[]" ++ element.spelling
  | struct _ => "*ast.StructType"
  | outline shape => shape.placeholder

/-- Whether a placeholder stands somewhere in the spelling. -/
def isUnsupported : GoType → Bool
  | name _ => false
  | qualified base _ => base.isUnsupported
  | pointer element => element.isUnsupported
  | sequence element => element.isUnsupported
  | struct _ => true
  | outline _ => true

end GoType

end GoDto
