/-!
What there is to know about a DTO: the fields it takes over from a struct, and the names around
them.
-/

namespace GoDto.Dto

structure Field where
  name : String
  type : String
  tag : String
  deriving DecidableEq, Repr

/-- The fields of a struct, and the package that it stands in. -/
structure StructFields where
  package : String
  fields : List Field
  deriving DecidableEq, Repr

structure Context where
  package : String
  dto : String
  source : String
  mapper : String
  fields : List Field
  deriving DecidableEq, Repr

/-- The context of a DTO for the struct `name`, from which its own names derive. -/
def Context.ofStruct (name : String) (found : StructFields) : Context where
  package := found.package
  dto := name ++ "DTO"
  source := name
  mapper := "To" ++ name ++ "DTO"
  fields := found.fields

end GoDto.Dto
