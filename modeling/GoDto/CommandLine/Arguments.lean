import GoDto.Text.Visible

/-!
The words of a command line. Three options take a value each, in the word after the option or
attached to it; two flags take none. A word is read with what the words before it have left open:
an option may still wait for its value, and its faults are found only when the next option is met
or the words end.
-/

namespace GoDto.CommandLine

/-- The options that take a value. -/
inductive Setting where
  | input
  | output
  | typeName
  deriving DecidableEq, Repr

inductive Flag where
  | emitJson
  | help
  deriving DecidableEq, Repr

namespace Setting

def usage : Setting → String
  | input => "--input <INPUT>"
  | output => "--output <OUTPUT>"
  | typeName => "--type <NAME>"

def ofLong? : String → Option Setting
  | "input" => some input
  | "output" => some output
  | "type" => some typeName
  | _ => none

def ofShort? : Char → Option Setting
  | 'i' => some input
  | 'o' => some output
  | 't' => some typeName
  | _ => none

end Setting

namespace Flag

def usage : Flag → String
  | emitJson => "--emit-json"
  | help => "--help"

def ofLong? : String → Option Flag
  | "emit-json" => some emitJson
  | "help" => some help
  | _ => none

def ofShort? : Char → Option Flag
  | 'h' => some help
  | _ => none

end Flag

inductive UsageError where
  | missingValue (setting : Setting)
  | repeated (usage : String)
  | unexpectedArgument (word : String)
  | unexpectedValue (value : String) (flag : Flag)
  | missingSettings
  deriving DecidableEq, Repr

/-- The text for the user. It goes to a terminal, so the words it quotes are bared of control
sequences. -/
def UsageError.message : UsageError → String
  | missingValue setting =>
    "a value is required for '" ++ setting.usage ++ "' but none was supplied"
  | repeated usage => "the argument '" ++ usage ++ "' cannot be used multiple times"
  | unexpectedArgument word => "unexpected argument '" ++ Text.visible word ++ "' found"
  | unexpectedValue value flag =>
    "unexpected value '" ++ Text.visible value ++ "' for '" ++ flag.usage ++
      "' found; no more were expected"
  | missingSettings => "the following required arguments were not provided:"

structure Arguments where
  input : String
  output : String
  typeName : String
  emitJson : Bool
  deriving DecidableEq, Repr

/-- What a command line asks for. -/
inductive Request where
  | generate (arguments : Arguments)
  | help
  deriving DecidableEq, Repr

/-- An option that may not have its value yet. -/
structure Pending where
  setting : Setting
  value : Option String
  deriving DecidableEq, Repr

/-- What the words read so far amount to. -/
structure Draft where
  settings : List (Setting × String)
  emitJson : Bool
  pending : Option Pending
  deriving DecidableEq, Repr

namespace Draft

def empty : Draft := ⟨[], false, none⟩

/-- Takes over a value. A repeated option is at fault before an empty value is. -/
def assign (draft : Draft) (setting : Setting) (value : String) : Except UsageError Draft :=
  if (draft.settings.lookup setting).isSome then .error (.repeated setting.usage)
  else if value = "" then .error (.missingValue setting)
  else .ok { draft with settings := (setting, value) :: draft.settings }

/-- Takes over the option that has been waiting. -/
def settle (draft : Draft) : Except UsageError Draft :=
  match draft.pending with
  | none => .ok draft
  | some ⟨setting, none⟩ => .error (.missingValue setting)
  | some ⟨setting, some value⟩ => { draft with pending := none }.assign setting value

/-- An option, with the value attached to it if there is one. -/
def takeSetting (draft : Draft) (setting : Setting) (attached : Option String) :
    Except UsageError Draft := do
  let settled ← draft.settle
  match attached with
  | some value => settled.assign setting value
  | none => pure { settled with pending := some ⟨setting, none⟩ }

/-- A word that is no option has to be the value of one. -/
def takeValue (draft : Draft) (word : String) : Except UsageError Draft :=
  match draft.pending with
  | some ⟨setting, none⟩ => .ok { draft with pending := some ⟨setting, some word⟩ }
  | _ => .error (.unexpectedArgument word)

/-- A flag without a value. There is no draft after a call for help. -/
def takeFlag (draft : Draft) (flag : Flag) : Except UsageError (Option Draft) := do
  let settled ← draft.settle
  match flag with
  | .help => pure none
  | .emitJson =>
    if settled.emitJson then .error (.repeated flag.usage)
    else pure (some { settled with emitJson := true })

def finish (draft : Draft) : Except UsageError Request := do
  let settled ← draft.settle
  match settled.settings.lookup .input, settled.settings.lookup .output,
      settled.settings.lookup .typeName with
  | some input, some output, some typeName =>
    pure (.generate ⟨input, output, typeName, settled.emitJson⟩)
  | _, _, _ => .error .missingSettings

/-- A word with two dashes in front: a name, and a value after an equals sign. -/
def takeLong (draft : Draft) (body : List Char) : Except UsageError (Option Draft) :=
  let name := String.ofList (body.takeWhile (· ≠ '='))
  let attached :=
    match body.dropWhile (· ≠ '=') with
    | [] => none
    | _ :: value => some (String.ofList value)
  match Setting.ofLong? name, Flag.ofLong? name with
  | some setting, _ => some <$> draft.takeSetting setting attached
  | none, some flag =>
    match attached with
    | some value => .error (.unexpectedValue value flag)
    | none => draft.takeFlag flag
  | none, none => .error (.unexpectedArgument ("--" ++ name))

/-- A word with one dash in front: a letter, and a value that may follow an equals sign. -/
def takeShort (draft : Draft) (letter : Char) (body : List Char) :
    Except UsageError (Option Draft) :=
  match Setting.ofShort? letter, Flag.ofShort? letter with
  | some setting, _ =>
    let attached :=
      match body with
      | [] => none
      | '=' :: value => some (String.ofList value)
      | value => some (String.ofList value)
    some <$> draft.takeSetting setting attached
  | none, some flag => draft.takeFlag flag
  | none, none => .error (.unexpectedArgument (String.ofList ['-', letter]))

/-- Reads the words on. Nothing after a double dash is an option, and nothing may follow it. -/
def read (draft : Draft) : List String → Except UsageError Request
  | [] => draft.finish
  | word :: rest => do
    let next ←
      match word.toList with
      | ['-', '-'] =>
        match rest with
        | [] => pure (some draft)
        | extra :: _ => .error (.unexpectedArgument extra)
      | '-' :: '-' :: body => draft.takeLong body
      | '-' :: letter :: body => draft.takeShort letter body
      | _ => some <$> draft.takeValue word
    match next with
    | some next => next.read rest
    | none => pure .help

end Draft

def Request.ofWords (words : List String) : Except UsageError Request := Draft.empty.read words

end GoDto.CommandLine
