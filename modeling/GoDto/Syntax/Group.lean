import GoDto.Syntax.Reader

/-!
Bracket groups. A group reaches from an opening bracket to the closing one that brings the number
of open brackets back to zero, whatever kind of bracket that is.
-/

namespace GoDto

/-- What follows the group whose opening bracket has just been read. The number counts the
brackets that are open inside it. There is no answer if the file ends first. -/
def afterGroup : Nat → List Token → Option (List Token)
  | _, [] => none
  | inner, token :: rest =>
    if token.kind = .endOfFile then none
    else if token.opens then afterGroup (inner + 1) rest
    else if token.closes then
      match inner with
      | 0 => some rest
      | inner + 1 => afterGroup inner rest
    else afterGroup inner rest

/-- The token behind the first group in a token list, or the end mark that is met before. The
number counts the open brackets. -/
def tokenBehindGroup (final : Token) : Nat → List Token → Token
  | _, [] => final
  | depth, token :: rest =>
    if token.kind = .endOfFile then token
    else if token.opens then tokenBehindGroup final (depth + 1) rest
    else if token.closes then
      if depth ≤ 1 then rest.headD final else tokenBehindGroup final (depth - 1) rest
    else tokenBehindGroup final depth rest

namespace Reader

/-- Reads what is left of the group that `opener`, already read, has opened. -/
def closeGroup (opener : Token) : Reader Unit := fun _ rest =>
  match afterGroup 0 rest with
  | some behind => .done () behind
  | none => .failed (.unclosed opener)

/-- Reads a whole group. -/
def group : Reader Unit := do
  let opener ← current
  if opener.opens then do
    step
    closeGroup opener
  else unexpected

/-- Reads a group that starts with the bracket `opening`. -/
def groupOf (opening : String) : Reader Unit := do
  if (← current).is opening then group else unexpected

/-- The token behind the group that starts `count` places ahead, without reading it. -/
def lookBehindGroup (count : Nat) : Reader Token := fun final rest =>
  .done (tokenBehindGroup final 0 (rest.drop count)) rest

end Reader

end GoDto
