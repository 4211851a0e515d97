import GoDto.Dto.Context
import GoDto.Text.Json

/-!
The context of a DTO as a JSON document.
-/

namespace GoDto.Dto

def Field.json (field : Field) : Json :=
  .object [("name", .text field.name), ("type", .text field.type), ("tagName", .text field.tag)]

namespace Context

def json (context : Context) : Json :=
  .object [("packageName", .text context.package), ("dtoName", .text context.dto),
    ("originalName", .text context.source), ("mapperFunctionName", .text context.mapper),
    ("fields", .list (context.fields.map Field.json))]

def document (context : Context) : String := context.json.document

end Context

end GoDto.Dto
