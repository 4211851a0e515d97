/-!
Text between double quotes, as JSON writes it. Quotes, backslashes and control characters are
escaped; every other character stands for itself.
-/

namespace GoDto.Text

/-- The lower-case hexadecimal digit of a number below sixteen. -/
def hexDigit (value : Nat) : Char :=
  if value < 10 then Char.ofNat (48 + value) else Char.ofNat (87 + value)

/-- The written form of one character. The control characters without a letter of their own are
written by their code point. -/
def escape (c : Char) : List Char :=
  match c with
  | '"' => ['\\', '"']
  | '\\' => ['\\', '\\']
  | '\x08' => ['\\', 'b']
  | '\x0c' => ['\\', 'f']
  | '\n' => ['\\', 'n']
  | '\r' => ['\\', 'r']
  | '\t' => ['\\', 't']
  | c =>
    if c.toNat < 32 then
      ['\\', 'u', '0', '0', hexDigit (c.toNat / 16), hexDigit (c.toNat % 16)]
    else [c]

def quotedChars (text : List Char) : List Char := '"' :: text.flatMap escape ++ ['"']

def quoted (text : String) : String := String.ofList (quotedChars text.toList)

end GoDto.Text
