import GoDto.Text.Json

/-!
The grammar of JSON texts, as far as they are made of strings, lists and objects. Numbers and the words
`true`, `false` and `null` are left out, since no document here holds them; what these productions derive,
the whole grammar derives as well. White space stands in front of a mark or a string, and behind the value.
-/

namespace GoDto.Json

def isSpace (c : Char) : Bool := [' ', '\t', '\n', '\r'].contains c

def Blank (front : List Char) : Prop := ∀ c ∈ front, isSpace c

/-- Whether a character stands for itself between quotes. -/
def isPlain (c : Char) : Bool := 32 ≤ c.toNat && c != '"' && c != '\\'

/-- The letters that may stand behind a backslash, with what they mean there. -/
def letters : List (Char × Char) :=
  [('"', '"'), ('\\', '\\'), ('/', '/'), ('b', '\x08'), ('f', '\x0c'), ('n', '\n'), ('r', '\r'),
    ('t', '\t')]

def digit? (c : Char) : Option Nat :=
  if c.isDigit then some (c.toNat - 48)
  else if 'a' ≤ c ∧ c ≤ 'f' then some (c.toNat - 87)
  else if 'A' ≤ c ∧ c ≤ 'F' then some (c.toNat - 55)
  else none

/-- The number that four hexadecimal digits write. -/
def unit? (digits : List Char) : Option Nat :=
  if digits.length = 4 then
    digits.foldlM (fun value digit => (digit? digit).map (16 * value + ·)) 0
  else none

/-- The number of the character that two surrogates stand for. -/
def pair? (high low : Nat) : Option Nat :=
  if 0xD800 ≤ high ∧ high < 0xDC00 ∧ 0xDC00 ≤ low ∧ low < 0xE000 then
    some (0x10000 + 0x400 * (high - 0xD800) + (low - 0xDC00))
  else none

/-- How a character may be written between quotes. No character has the number of a surrogate. -/
inductive Spells : List Char → Char → Prop where
  | plain {c : Char} : isPlain c → Spells [c] c
  | letter {letter c : Char} : letters.lookup letter = some c → Spells ['\\', letter] c
  | unit {digits : List Char} {c : Char} : unit? digits = some c.toNat →
      Spells ('\\' :: 'u' :: digits) c
  | pair {first second : List Char} {high low : Nat} {c : Char} : unit? first = some high →
      unit? second = some low → pair? high low = some c.toNat →
      Spells ('\\' :: 'u' :: (first ++ '\\' :: 'u' :: second)) c

/-- `Item* End` -/
inductive Until {α : Type} (Item : List Char → α → Prop) (End : List Char → Prop) :
    List Char → List α → Prop where
  | stop {ending : List Char} : End ending → Until Item End ending []
  | step {front rest : List Char} {value : α} {later : List α} : Item front value →
      Until Item End rest later → Until Item End (front ++ rest) (value :: later)

/-- A character behind white space -/
inductive Mark (c : Char) : List Char → Prop where
  | intro {blank : List Char} : Blank blank → Mark c (blank ++ [c])

/-- `" Char* "` -/
inductive Literal : List Char → String → Prop where
  | intro {opener rest : List Char} {text : String} : Mark '"' opener →
      Until Spells (· = ['"']) rest text.toList → Literal (opener ++ rest) text

/-- `, Item` -/
inductive Further {α : Type} (Item : List Char → α → Prop) : List Char → α → Prop where
  | intro {comma rest : List Char} {value : α} : Mark ',' comma → Item rest value →
      Further Item (comma ++ rest) value

/-- `[Item (, Item)*] closer` -/
inductive Closed {α : Type} (closer : Char) (Item : List Char → α → Prop) :
    List Char → List α → Prop where
  | none {ending : List Char} : Mark closer ending → Closed closer Item ending []
  | some {front rest : List Char} {value : α} {later : List α} : Item front value →
      Until (Further Item) (Mark closer) rest later → Closed closer Item (front ++ rest) (value :: later)

/-- `opener [Item (, Item)*] closer` -/
inductive Enclosed {α : Type} (opener closer : Char) (Item : List Char → α → Prop) :
    List Char → List α → Prop where
  | intro {front rest : List Char} {values : List α} : Mark opener front → Closed closer Item rest values →
      Enclosed opener closer Item (front ++ rest) values

/-- `Literal : Value` -/
inductive Entry (Inner : List Char → Json → Prop) : List Char → String × Json → Prop where
  | intro {name colon rest : List Char} {key : String} {json : Json} : Literal name key →
      Mark ':' colon → Inner rest json → Entry Inner (name ++ (colon ++ rest)) (key, json)

/-- The productions of a value, over what derives the values inside it -/
inductive Rule (Inner : List Char → Json → Prop) : List Char → Json → Prop where
  | text {value : String} {front : List Char} : Literal front value → Rule Inner front (.text value)
  | list {items : List Json} {front : List Char} : Enclosed '[' ']' Inner front items →
      Rule Inner front (.list items)
  | object {entries : List (String × Json)} {front : List Char} :
      Enclosed '\x7b' '\x7d' (Entry Inner) front entries → Rule Inner front (.object entries)

/-- Characters that derive a value by finitely many productions -/
inductive Written : List Char → Json → Prop where
  | intro {front : List Char} {json : Json} : Rule Written front json → Written front json

/-- Whether a text is well formed and stands for a value -/
def Denotes (text : String) (json : Json) : Prop :=
  ∃ front blank, text.toList = front ++ blank ∧ Written front json ∧ Blank blank

section
variable {c : Char} {blank front : List Char}

theorem blank_nil : Blank [] := by simp [Blank]

theorem Blank.append {first second : List Char} (front : Blank first) (back : Blank second) :
    Blank (first ++ second) :=
  List.forall_mem_append.2 ⟨front, back⟩

theorem mark_self (c : Char) : Mark c [c] := .intro blank_nil

theorem Mark.indent (mark : Mark c front) (space : Blank blank) : Mark c (blank ++ front) := by
  obtain @⟨own, inside⟩ := mark
  rw [← List.append_assoc]
  exact .intro (space.append inside)

theorem Literal.indent {text : String} (literal : Literal front text) (space : Blank blank) :
    Literal (blank ++ front) text := by
  obtain ⟨opener, rest⟩ := literal
  rw [← List.append_assoc]
  exact .intro (opener.indent space) rest

theorem Enclosed.indent {α : Type} {opener closer : Char} {Item : List Char → α → Prop} {values : List α}
    (enclosed : Enclosed opener closer Item front values) (space : Blank blank) :
    Enclosed opener closer Item (blank ++ front) values := by
  obtain ⟨mark, closed⟩ := enclosed
  rw [← List.append_assoc]
  exact .intro (mark.indent space) closed

theorem Written.indent {json : Json} (written : Written front json) (space : Blank blank) :
    Written (blank ++ front) json := by
  obtain ⟨rule⟩ := written
  constructor
  cases rule with
  | text literal => exact .text (literal.indent space)
  | list items => exact .list (items.indent space)
  | object entries => exact .object (entries.indent space)

theorem Mark.length_pos (mark : Mark c front) : 0 < front.length := by
  obtain ⟨-⟩ := mark
  simp

end

/-! The values inside a value are shorter than it, so what replaces their derivations may depend on that. -/

section
variable {α : Type} {Item Other : List Char → α → Prop} {whole : List Char}

theorem Until.imp {End : List Char → Prop} {values : List α}
    (replace : ∀ front value, front.length ≤ whole.length → Item front value → Other front value)
    (items : Until Item End whole values) : Until Other End whole values := by
  induction items with
  | stop ending => exact .stop ending
  | @step front rest value later item _ ih =>
    refine .step (replace front value (by simp) item) (ih ?_)
    intro inner value short
    exact replace inner value (by rw [List.length_append]; omega)

theorem Further.imp {value : α}
    (replace : ∀ front value, front.length ≤ whole.length → Item front value → Other front value)
    (further : Further Item whole value) : Further Other whole value := by
  obtain ⟨comma, item⟩ := further
  exact .intro comma (replace _ _ (by simp) item)

theorem Closed.imp {closer : Char} {values : List α}
    (replace : ∀ front value, front.length ≤ whole.length → Item front value → Other front value)
    (closed : Closed closer Item whole values) : Closed closer Other whole values := by
  cases closed with
  | none ending => exact .none ending
  | @some front rest value later item items =>
    refine .some (replace front value (by simp) item) (items.imp ?_)
    intro own value short
    apply Further.imp
    intro inner value shorter
    exact replace inner value (by rw [List.length_append]; omega)

theorem Enclosed.imp {opener closer : Char} {values : List α}
    (replace : ∀ front value, front.length < whole.length → Item front value → Other front value)
    (enclosed : Enclosed opener closer Item whole values) : Enclosed opener closer Other whole values := by
  obtain ⟨mark, closed⟩ := enclosed
  have taken := mark.length_pos
  refine .intro mark (closed.imp ?_)
  intro front value short
  exact replace front value (by rw [List.length_append]; omega)

end

section
variable {Inner Other : List Char → Json → Prop} {whole : List Char}

theorem Entry.imp {entry : String × Json}
    (replace : ∀ front json, front.length ≤ whole.length → Inner front json → Other front json)
    (derives : Entry Inner whole entry) : Entry Other whole entry := by
  obtain ⟨name, colon, inner⟩ := derives
  exact .intro name colon (replace _ _ (by rw [List.length_append, List.length_append]; omega) inner)

theorem Rule.imp {json : Json}
    (replace : ∀ front json, front.length < whole.length → Inner front json → Other front json)
    (rule : Rule Inner whole json) : Rule Other whole json := by
  cases rule with
  | text literal => exact .text literal
  | list items => exact .list (items.imp replace)
  | object entries =>
    refine .object (entries.imp ?_)
    intro own entry short
    apply Entry.imp
    intro front json shorter
    exact replace front json (by omega)

end

/-! What is written is derived. -/

theorem digit?_hexDigit : ∀ value < 16, digit? (Text.hexDigit value) = some value := by decide

theorem spells_escape (c : Char) : Spells (Text.escape c) c := by
  unfold Text.escape
  split
  any_goals exact .letter rfl
  next quote backslash _ _ _ _ _ =>
    split
    next control =>
      apply Spells.unit
      have high := digit?_hexDigit (c.toNat / 16) (by omega)
      have low := digit?_hexDigit (c.toNat % 16) (by omega)
      have zero : digit? '0' = some 0 := rfl
      simp only [unit?, List.length_cons, List.length_nil, List.foldlM_cons, List.foldlM_nil, zero, high, low]
      simp
      omega
    next printed =>
      apply Spells.plain
      simp only [isPlain, Bool.and_eq_true, decide_eq_true_eq, bne_iff_ne]
      exact ⟨⟨by omega, quote⟩, backslash⟩

theorem until_escape (chars : List Char) :
    Until Spells (· = ['"']) (chars.flatMap Text.escape ++ ['"']) chars := by
  induction chars with
  | nil => exact .stop rfl
  | cons c rest ih =>
    rw [List.flatMap_cons, List.append_assoc]
    exact .step (spells_escape c) ih

theorem literal_quoted (text : String) : Literal (Text.quoted text).toList text := by
  rw [Text.quoted, String.toList_ofList]
  exact @Literal.intro ['"'] _ text (mark_self '"') (until_escape text.toList)

theorem blank_newLine (level : Nat) : Blank (newLine level).toList := by
  intro c inside
  simp only [newLine, String.toList_append, String.toList_ofList, List.mem_append] at inside
  rcases inside with inside | inside
  · obtain rfl : c = '\n' := by simpa using inside
    rfl
  · obtain rfl := List.eq_of_mem_replicate inside
    rfl

theorem entry_pretty {level : Nat} {json : Json} (key : String)
    (written : Written (json.pretty level).toList json) :
    Entry Written (newLine level ++ Text.quoted key ++ ": " ++ json.pretty level).toList (key, json) := by
  have name := (literal_quoted key).indent (blank_newLine level)
  have space : Blank [' '] := by simp [Blank, isSpace]
  have whole := Entry.intro name (mark_self ':') (written.indent space)
  simpa using whole

mutual

theorem written_pretty (level : Nat) : ∀ json : Json, Written (json.pretty level).toList json
  | .text value => .intro (.text (literal_quoted value))
  | .list [] => by
    have whole : Rule Written _ _ := .list (.intro (mark_self '[') (.none (mark_self ']')))
    constructor
    simpa [pretty] using whole
  | .list (first :: rest) => by
    -- Each line break and its indentation count to what comes next.
    have item := (written_pretty (level + 1) first).indent (blank_newLine (level + 1))
    have closer := (mark_self ']').indent (blank_newLine level)
    have items := until_prettyItems (level + 1) closer rest
    have whole := Rule.list (.intro (mark_self '[') (.some item items))
    constructor
    simpa [pretty] using whole
  | .object [] => by
    have whole : Rule Written _ _ := .object (.intro (mark_self '\x7b') (.none (mark_self '\x7d')))
    constructor
    simpa [pretty] using whole
  | .object ((key, json) :: rest) => by
    have entry := entry_pretty key (written_pretty (level + 1) json)
    have closer := (mark_self '\x7d').indent (blank_newLine level)
    have entries := until_prettyEntries (level + 1) closer rest
    have whole := Rule.object (.intro (mark_self '\x7b') (.some entry entries))
    constructor
    simpa [pretty] using whole

theorem until_prettyItems (level : Nat) {ending : List Char} (closer : Mark ']' ending) :
    ∀ items : List Json,
      Until (Further Written) (Mark ']') ((prettyItems level items).toList ++ ending) items
  | [] => .stop closer
  | first :: rest => by
    have item := (written_pretty level first).indent (blank_newLine level)
    have whole := Until.step (.intro (mark_self ',') item) (until_prettyItems level closer rest)
    simpa [prettyItems] using whole

theorem until_prettyEntries (level : Nat) {ending : List Char} (closer : Mark '\x7d' ending) :
    ∀ entries : List (String × Json),
      Until (Further (Entry Written)) (Mark '\x7d') ((prettyEntries level entries).toList ++ ending) entries
  | [] => .stop closer
  | (key, json) :: rest => by
    have entry := entry_pretty key (written_pretty level json)
    have whole := Until.step (.intro (mark_self ',') entry) (until_prettyEntries level closer rest)
    simpa [prettyEntries] using whole

end

/-- Every document is well formed and stands for the value that it was made from. -/
theorem denotes_document (json : Json) : Denotes json.document json :=
  ⟨_, [], (List.append_nil _).symm, written_pretty 0 json, blank_nil⟩

theorem denotes_quoted (text : String) : Denotes (Text.quoted text) (.text text) :=
  denotes_document (.text text)

end GoDto.Json
