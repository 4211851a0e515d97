import GoDto.Dto.Code
import GoDto.Dto.Document
import GoDto.Dto.Lookup
import GoDto.Generation.Traced
import GoDto.Syntax.Source

/-!
From the source text of a struct to its DTO.
-/

namespace GoDto.Generation

/-- Reads a source text. -/
def sourceFile (text : String) : Traced SourceFile := do
  match Tokens.ofText text with
  | .error error => .fail (.invalidSource (SourceError.lexical error).diagnostic)
  | .ok tokens => do
    .emit [.tokenized tokens.toList.length]
    match SourceFile.ofTokens tokens with
    | .error error => .fail (.invalidSource error.diagnostic)
    | .ok file => do
      .emit [.parsed file.package file.decls.length]
      pure file

/-- The context of a DTO for the struct `name`. The `label` of the text shows up only in the
message that there is no such struct. -/
def context (text name label : String) : Traced Dto.Context := do
  let file ← sourceFile text
  let (found, events) := file.lookUp name
  .emit events
  match found with
  | some found => pure (.ofStruct name found)
  | none => .fail (.structNotFound name label)

/-- The context of a DTO and its source text. -/
def fromText (text name label : String) : Traced (Dto.Context × String) := do
  let context ← context text name label
  pure (context, context.code)

/-- The context of a DTO as a JSON document. -/
def document (text name : String) : Traced String := do
  let context ← context text name "<input>"
  pure context.document

end GoDto.Generation
