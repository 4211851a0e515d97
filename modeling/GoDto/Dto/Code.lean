import GoDto.Dto.Context

/-!
The Go source text of a DTO: the struct, and a function that fills it from the struct it is made
for.
-/

namespace GoDto.Dto

def Field.declaration (field : Field) : String :=
  "\t" ++ field.name ++ " " ++ field.type ++ " \x60json:\"" ++ field.tag ++ "\"\x60"

def Field.assignment (field : Field) : String :=
  "\t\t" ++ field.name ++ ": in." ++ field.name ++ ","

namespace Context

def lines (context : Context) : List String :=
  ["package " ++ context.package, "", "type " ++ context.dto ++ " struct \x7b"] ++
    context.fields.map Field.declaration ++
    ["\x7d", "",
      "func " ++ context.mapper ++ "(in " ++ context.source ++ ") " ++ context.dto ++ " \x7b",
      "\treturn " ++ context.dto ++ "\x7b"] ++
    context.fields.map Field.assignment ++ ["\t\x7d", "\x7d", ""]

def code (context : Context) : String := String.intercalate "\n" context.lines

end Context

end GoDto.Dto
