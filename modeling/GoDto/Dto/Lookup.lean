import GoDto.Dto.Context
import GoDto.Dto.Spelling
import GoDto.Event.Basic
import GoDto.Unicode.LowerCase

/-!
The fields of a struct, looked up by name in a source file. Of several structs of that name the
last one counts. Embedded fields have no name and give nothing.
-/

namespace GoDto

namespace FieldDecl

variable (decl : FieldDecl GoType)

/-- One field for each name. The tag is the name in lower case, whatever tag the source has. -/
def fields : List Dto.Field :=
  decl.names.map fun name => ⟨name, decl.type.spelling, Unicode.lowerCase name⟩

def events : List Event :=
  (if decl.type.isUnsupported then [.unsupportedType decl.position decl.type.spelling] else []) ++
    decl.names.map fun name => .tookField name decl.type.spelling decl.tag

end FieldDecl

/-- The fields found so far after one more declaration, and what is to be told about it. -/
def TypeDecl.visit (decl : TypeDecl) (name : String) (found : Option (List Dto.Field)) :
    Option (List Dto.Field) × List Event :=
  if decl.name = name then
    match decl.type with
    | .struct body =>
      let fields := body.flatMap FieldDecl.fields
      let again := if found.isSome then [.redeclared decl.name decl.position.line] else []
      let ending := .matched decl.name decl.position.line decl.isAlias fields.length
      (some fields, again ++ body.flatMap FieldDecl.events ++ [ending])
    | _ => (found, [.passedOver decl.name decl.position.line])
  else (found, [])

/-- The fields found after all of the declarations. -/
def TypeDecl.visitAll (name : String) (found : Option (List Dto.Field)) :
    List TypeDecl → Option (List Dto.Field) × List Event
  | [] => (found, [])
  | decl :: rest =>
    let (next, events) := decl.visit name found
    let (last, later) := visitAll name next rest
    (last, events ++ later)

def SourceFile.lookUp (file : SourceFile) (name : String) :
    Option Dto.StructFields × List Event :=
  let (found, events) := TypeDecl.visitAll name none file.decls
  (found.map fun fields => ⟨file.package, fields⟩, events)

end GoDto
