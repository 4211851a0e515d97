import GoDto.Text.Quoted
import GoDto.Unicode.Unshown

/-!
Text between double quotes, as a log shows it: whatever would not show is named by its code point.
-/

namespace GoDto.Text

/-- The digits of a number in base sixteen, without leading zeros. -/
def hexDigits (value : Nat) : List Char :=
  if value < 16 then [hexDigit value] else hexDigits (value / 16) ++ [hexDigit (value % 16)]

def showChar (c : Char) : List Char :=
  match c with
  | '"' => ['\\', '"']
  | '\\' => ['\\', '\\']
  | '\n' => ['\\', 'n']
  | '\r' => ['\\', 'r']
  | '\t' => ['\\', 't']
  | '\x00' => ['\\', '0']
  | c =>
    if Unicode.isUnshown c then ['\\', 'u', '\x7b'] ++ hexDigits c.toNat ++ ['\x7d'] else [c]

def shown (text : String) : String :=
  String.ofList ('"' :: text.toList.flatMap showChar ++ ['"'])

/-- An optional text, with a word for its absence. -/
def shownOption : Option String → String
  | none => "None"
  | some text => "Some(" ++ shown text ++ ")"

end GoDto.Text
