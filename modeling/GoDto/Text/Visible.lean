/-!
What a terminal would show of a text. Control characters are left out, and so are the sequences that
an escape character starts: control sequences, commands and strings for a device. Tabs and breaks
are kept. Main statement: a text of visible characters is shown as it is.
-/

namespace GoDto.Text

/-- A tab, a line break, a form feed or a return. -/
def isBreak (c : Char) : Bool := c = '\t' || c = '\n' || c = '\x0c' || c = '\r'

/-- Outside every sequence, only control characters are not shown. -/
def isVisible (c : Char) : Bool := isBreak c || 0x20 ≤ c.toNat && c.toNat ≠ 0x7f

def between (first last c : Char) : Bool := first ≤ c && c ≤ last

/-- A sequence that has not come to its end. -/
inductive Sequence where
  /-- An escape character alone. -/
  | escape
  /-- An escape character and what specifies the sequence, before its final character. -/
  | designation
  /-- A control sequence, with or without parameters. -/
  | control
  /-- A command to the system, which a bell ends. -/
  | command
  /-- The head of a device string. -/
  | device
  /-- The head of a device string, within its parameters. -/
  | deviceParameters
  /-- The head of a device string, behind its parameters. -/
  | deviceFunction
  /-- The body of a string. -/
  | body
  deriving DecidableEq, Repr

namespace Sequence

/-- The byte that ends a string. It counts also as a byte of a longer character. -/
def terminator : UInt8 := 0x9c

/-- The sequence behind one more character, if that does not end it. A character that has no
meaning in a sequence is passed over. -/
def next (sequence : Sequence) (c : Char) : Option Sequence :=
  match sequence with
  | escape =>
    if between ' ' '/' c then some designation
    else if c = '[' then some control
    else if c = ']' then some command
    else if c = 'P' then some device
    else if c = 'X' || c = '^' || c = '_' then some body
    else if between '0' '~' c then none
    else some escape
  | designation => if between '0' '~' c then none else some designation
  | control => if between '@' '~' c then none else some control
  | command => if c = '\x07' then none else some command
  | device =>
    if between ' ' '/' c then some deviceFunction
    else if between '0' '?' c then some deviceParameters
    else if between '@' '~' c then some body
    else some device
  | deviceParameters =>
    if between ' ' '/' c then some deviceFunction
    else if between '<' '~' c then some body
    else some deviceParameters
  | deviceFunction => if between '0' '~' c then some body else some deviceFunction
  | body => if (String.utf8EncodeChar c).contains terminator then none else some body

/-- Breaks are shown even here, where the sequence carries no text. -/
def showsBreaks : Sequence → Bool
  | escape | designation | control => true
  | command | device | deviceParameters | deviceFunction | body => false

end Sequence

/-- Whether characters are shown. A break that is shown within a sequence suspends it: what follows
is shown too, until a control character goes on with the sequence. -/
inductive Mode where
  | showing (suspended : Option Sequence)
  | inside (sequence : Sequence)
  deriving DecidableEq, Repr

namespace Mode

def shows (mode : Mode) (c : Char) : Bool :=
  match mode with
  | showing _ => isVisible c
  | inside sequence => sequence.showsBreaks && isBreak c

/-- The mode behind one more character. An escape character always starts a new sequence, and a
cancel or substitute character ends any. -/
def next (mode : Mode) (c : Char) : Mode :=
  if c = '\x1b' then inside .escape
  else if c = '\x18' || c = '\x1a' then showing none
  else
    match mode with
    | showing suspended =>
      if isVisible c then showing (if c.toNat < 0x80 then suspended else none)
      else suspended.elim (showing none) inside
    | inside sequence =>
      if mode.shows c then showing (some sequence)
      else (sequence.next c).elim (showing none) inside

end Mode

def visibleChars (mode : Mode) : List Char → List Char
  | [] => []
  | c :: rest =>
    let shown := visibleChars (mode.next c) rest
    if mode.shows c then c :: shown else shown

def visible (text : String) : String := String.ofList (visibleChars (.showing none) text.toList)

/-- What is visible does not start a sequence. -/
theorem next_of_isVisible {c : Char} (h : isVisible c = true) :
    (Mode.showing none).next c = .showing none := by
  have escape : c ≠ '\x1b' := by rintro rfl; exact absurd h (by decide)
  have cancel : c ≠ '\x18' := by rintro rfl; exact absurd h (by decide)
  have substitute : c ≠ '\x1a' := by rintro rfl; exact absurd h (by decide)
  simp [Mode.next, escape, cancel, substitute, h]

theorem visibleChars_of_forall {text : List Char} (h : ∀ c ∈ text, isVisible c = true) :
    visibleChars (.showing none) text = text := by
  induction text with
  | nil => rfl
  | cons c rest ih =>
    have first : isVisible c = true := h c (by simp)
    rw [visibleChars, next_of_isVisible first, ih fun d mem => h d (by simp [mem])]
    simp [Mode.shows, first]

theorem visible_of_forall {text : String} (h : ∀ c ∈ text.toList, isVisible c = true) :
    visible text = text := by
  rw [visible, visibleChars_of_forall h, String.ofList_toList]

end GoDto.Text
