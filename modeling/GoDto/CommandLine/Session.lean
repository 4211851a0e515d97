import GoDto.CommandLine.Arguments
import GoDto.Generation.FromFile

/-!
A run of the command: what it writes, and the exit code. The output file is written before
anything is said about it.
-/

namespace GoDto.CommandLine

def helpText : String :=
  "Generate a Go DTO struct and mapper function from a Go struct\n\n" ++
    "Usage: dto-gen [OPTIONS] --input <INPUT> --output <OUTPUT> --type <NAME>\n\n" ++
    "Options:\n" ++
    "  -i, --input <INPUT>    Input Go file containing the struct declaration\n" ++
    "  -o, --output <OUTPUT>  Output Go file (created or truncated)\n" ++
    "  -t, --type <NAME>      Name of the struct to convert (case-sensitive)\n" ++
    "      --emit-json        Also print the extracted fields as JSON to stdout\n" ++
    "  -h, --help             Print help\n"

structure Report where
  exitCode : Nat
  /-- The text for the standard output. -/
  output : String
  /-- The text for the standard error output, without a line break at its end. -/
  complaint : Option String
  events : List Event

namespace Report

def help : Report := ⟨0, helpText, none, []⟩

def misuse (error : UsageError) : Report := ⟨2, "", some ("error: " ++ error.message), []⟩

def ofGeneration (arguments : Arguments) (traced : Traced Dto.Context) : Report :=
  match traced.result with
  | .error failure => ⟨1, "", some ("Error: " ++ failure.text), traced.events⟩
  | .ok context =>
    let json := if arguments.emitJson then context.document ++ "\n" else ""
    ⟨0, json ++ "DTO generated at " ++ arguments.output ++ "\n", none, traced.events⟩

end Report

def run {m : Type → Type} [Monad m] (files : FileAccess m) (words : List String) : m Report := do
  match Request.ofWords words with
  | .error error => pure (.misuse error)
  | .ok .help => pure .help
  | .ok (.generate arguments) =>
    let traced ← Generation.fromFile files arguments.input arguments.output arguments.typeName
    pure (.ofGeneration arguments traced)

end GoDto.CommandLine
