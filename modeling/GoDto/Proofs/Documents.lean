import GoDto.Dto.Document
import GoDto.Proofs.JsonDecoding

/-!
What the documents of contexts stand for. Each is well formed, and the context can be read back from its one
value by the keys.
-/

namespace GoDto

namespace Json

def text? : Json → Option String
  | text value => some value
  | _ => none

def items? : Json → Option (List Json)
  | list items => some items
  | _ => none

/-- The value under a key. -/
def entry? (key : String) : Json → Option Json
  | object entries => entries.lookup key
  | _ => none

def textUnder? (json : Json) (key : String) : Option String := (json.entry? key).bind text?

end Json

namespace Dto

def Field.ofJson? (json : Json) : Option Field := do
  let name ← json.textUnder? "name"
  let type ← json.textUnder? "type"
  let tag ← json.textUnder? "tagName"
  pure ⟨name, type, tag⟩

def Context.ofJson? (json : Json) : Option Context := do
  let package ← json.textUnder? "packageName"
  let dto ← json.textUnder? "dtoName"
  let source ← json.textUnder? "originalName"
  let mapper ← json.textUnder? "mapperFunctionName"
  let items ← (json.entry? "fields").bind Json.items?
  let fields ← items.mapM Field.ofJson?
  pure ⟨package, dto, source, mapper, fields⟩

theorem Field.ofJson?_json (field : Field) : Field.ofJson? field.json = some field := rfl

theorem Field.mapM_ofJson? (fields : List Field) : (fields.map Field.json).mapM Field.ofJson? = some fields := by
  induction fields with
  | nil => rfl
  | cons field fields ih => simp [Field.ofJson?_json, ih]

namespace Context

theorem ofJson?_json (context : Context) : ofJson? context.json = some context := by
  have keys : ofJson? context.json = (context.fields.map Field.json).mapM Field.ofJson? >>= fun fields =>
      some ⟨context.package, context.dto, context.source, context.mapper, fields⟩ := rfl
  rw [keys, Field.mapM_ofJson?]
  rfl

/-- The document of a context stands for an object of its four names and its fields, and for nothing else.
Read back by the keys, this gives the context. A quoted text stands for the text. So neither documents nor
quoted texts are ever the same for two. -/
theorem document_decodes :
    (∀ (context : Context) (json : Json), Json.Denotes context.document json ↔
      json = .object [("packageName", .text context.package), ("dtoName", .text context.dto),
        ("originalName", .text context.source), ("mapperFunctionName", .text context.mapper),
        ("fields", .list (context.fields.map fun field =>
          .object [("name", .text field.name), ("type", .text field.type), ("tagName", .text field.tag)]))]) ∧
    (∀ context : Context, (Json.decode? context.document).bind ofJson? = some context) ∧
    (∀ (text : String) (json : Json), Json.Denotes (Text.quoted text) json ↔ json = .text text) ∧
    (∀ text : String, (Json.decode? (Text.quoted text)).bind Json.text? = some text) ∧
    Function.Injective document ∧ Function.Injective Text.quoted := by
  have contexts (context : Context) : (Json.decode? context.document).bind ofJson? = some context := by
    rw [document, Json.decode?_document, Option.bind_some, ofJson?_json]
  have texts (text : String) : (Json.decode? (Text.quoted text)).bind Json.text? = some text := by
    rw [Json.decode?_quoted]
    rfl
  refine ⟨fun context json => Json.denotes_document_iff, contexts, fun text json => Json.denotes_quoted_iff, texts,
    ?_, ?_⟩
  · intro first second same
    have own := contexts first
    rw [same, contexts second, Option.some.injEq] at own
    exact own.symm
  · intro first second same
    have own := texts first
    rw [same, texts second, Option.some.injEq] at own
    exact own.symm

end Context

end Dto

end GoDto
