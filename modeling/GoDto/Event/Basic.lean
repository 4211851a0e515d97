import GoDto.Source.Position
import GoDto.Text.Shown

/-!
What happens while a DTO is made, as data. An event has a level, a message and named details.
-/

namespace GoDto

inductive Level where
  | trace
  | debug
  | info
  | warn
  deriving DecidableEq, Repr

inductive Detail where
  | number (value : Nat)
  | flag (value : Bool)
  | text (value : String)
  deriving DecidableEq, Repr

inductive Event where
  | tokenized (tokens : Nat)
  | parsed (package : String) (decls : Nat)
  /-- A declaration of the wanted name that is no struct. -/
  | passedOver (name : String) (line : Nat)
  /-- A struct of the wanted name after another one. -/
  | redeclared (name : String) (line : Nat)
  | unsupportedType (position : Position) (spelling : String)
  | tookField (field type : String) (tag : Option String)
  | matched (name : String) (line : Nat) (isAlias : Bool) (fields : Nat)
  | wrote (dto input output : String) (fields : Nat)
  deriving DecidableEq, Repr

namespace Event

def level : Event → Level
  | tokenized .. | parsed .. | passedOver .. | matched .. => .debug
  | redeclared .. | unsupportedType .. => .warn
  | tookField .. => .trace
  | wrote .. => .info

def message : Event → String
  | tokenized .. => "tokenized source"
  | parsed .. => "parsed type declarations"
  | passedOver .. => "skipping non-struct declaration"
  | redeclared .. => "struct declared more than once; using the later declaration"
  | unsupportedType .. => "unsupported field type shape"
  | tookField .. => "extracted field"
  | matched .. => "matched struct declaration"
  | wrote dto .. => "wrote " ++ dto

def details : Event → List (String × Detail)
  | tokenized tokens => [("tokens", .number tokens)]
  | parsed package decls => [("package", .text package), ("decls", .number decls)]
  | passedOver name line => [("name", .text name), ("line", .number line)]
  | redeclared name line => [("name", .text name), ("line", .number line)]
  | unsupportedType position spelling =>
    [("line", .number position.line), ("column", .number position.column),
      ("type_name", .text spelling)]
  | tookField field type tag =>
    [("field", .text field), ("ty", .text type), ("source_tag", .text (Text.shownOption tag))]
  | matched name line isAlias fields =>
    [("name", .text name), ("line", .number line), ("alias", .flag isAlias),
      ("fields", .number fields)]
  | wrote _ input output fields =>
    [("input", .text input), ("output", .text output), ("fields", .number fields)]

end Event

end GoDto
