import GoDto.CommandLine.Session

/-!
The command, on real files. Log lines and complaints go to the standard error output.
-/

namespace GoDto.Main

/-- The system tells the two faults of kind by a number, which arrives with either sign. -/
def fileError : IO.Error → FileError
  | .noFileOrDirectory .. => .notFound
  | .inappropriateType _ code _ =>
    if code = 21 || code = 0 - 21 then .isADirectory else .notADirectory
  | .invalidArgument _ code details =>
    if code = 36 || code = 0 - 36 then .nameTooLong else .other details
  | error => .other (toString error)

def disk : FileAccess IO where
  read path := do
    if let some fault := pathFault? path then return .error fault
    match ← (IO.FS.readBinFile path).toBaseIO with
    | .error error => return .error (fileError error)
    | .ok bytes =>
      match String.fromUTF8? bytes with
      | some text => return .ok text
      | none => return .error .notText
  replace path text := do
    if let some fault := pathFault? path then return .error fault
    match ← (IO.FS.writeFile path text).toBaseIO with
    | .error error => return .error (fileError error)
    | .ok () => return .ok ()

/-- The name of a level that is logged. -/
def levelName? : Level → Option String
  | .info => some "INFO"
  | .warn => some "WARN"
  | .debug | .trace => none

def detail : Detail → String
  | .number value => toString value
  | .flag value => toString value
  | .text value => value

def log (event : Event) : IO Unit := do
  if let some level := levelName? event.level then
    let details := event.details.map fun (name, value) => " " ++ name ++ "=" ++ detail value
    IO.eprintln (level ++ " " ++ event.message ++ String.join details)

end GoDto.Main

def main (words : List String) : IO UInt32 := do
  let report ← GoDto.CommandLine.run GoDto.Main.disk words
  report.events.forM GoDto.Main.log
  IO.print report.output
  if let some complaint := report.complaint then IO.eprintln complaint
  return UInt32.ofNat report.exitCode
