import GoDto.Generation.FromText

/-!
From the source file of a struct to the file of its DTO. The output file is touched only after
everything else has gone well.
-/

namespace GoDto.Generation

/-- Makes the DTO for the struct `name` in the file `input` the content of the file `output`. -/
def fromFile {m : Type → Type} [Monad m] (files : FileAccess m) (input output name : String) :
    m (Traced Dto.Context) := do
  match ← files.read input with
  | .error error => pure (.fail (.file error))
  | .ok text =>
    let made := fromText text name input
    match made.result with
    | .error failure => pure ⟨made.events, .error failure⟩
    | .ok (context, code) =>
      match ← files.replace output code with
      | .error error => pure ⟨made.events, .error (.file error)⟩
      | .ok () =>
        let written := Event.wrote context.dto input output context.fields.length
        pure ⟨made.events ++ [written], .ok context⟩

end GoDto.Generation
