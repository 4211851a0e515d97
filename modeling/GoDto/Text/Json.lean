import GoDto.Text.Quoted

/-!
JSON documents of strings, written over several lines. Each level is indented by two more spaces;
an empty list or object stays on one line.
-/

namespace GoDto

inductive Json where
  | text (value : String)
  | list (items : List Json)
  | object (entries : List (String × Json))

namespace Json

/-- A new line with so many levels of indentation. -/
def newLine (level : Nat) : String := "\n" ++ String.ofList (List.replicate (2 * level) ' ')

mutual

def pretty (level : Nat) : Json → String
  | text value => Text.quoted value
  | list [] => "[]"
  | list (first :: rest) =>
    "[" ++ newLine (level + 1) ++ first.pretty (level + 1) ++ prettyItems (level + 1) rest ++
      newLine level ++ "]"
  | object [] => "\x7b\x7d"
  | object ((key, value) :: rest) =>
    "\x7b" ++ newLine (level + 1) ++ Text.quoted key ++ ": " ++ value.pretty (level + 1) ++
      prettyEntries (level + 1) rest ++ newLine level ++ "\x7d"

/-- Further items of a list, each after a comma. -/
def prettyItems (level : Nat) : List Json → String
  | [] => ""
  | item :: rest => "," ++ newLine level ++ item.pretty level ++ prettyItems level rest

/-- Further entries of an object, each after a comma. -/
def prettyEntries (level : Nat) : List (String × Json) → String
  | [] => ""
  | (key, value) :: rest =>
    "," ++ newLine level ++ Text.quoted key ++ ": " ++ value.pretty level ++
      prettyEntries level rest

end

def document (json : Json) : String := json.pretty 0

end Json

end GoDto
