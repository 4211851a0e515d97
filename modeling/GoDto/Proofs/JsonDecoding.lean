import GoDto.Proofs.JsonGrammar

/-!
A decoder for the same texts. At each step, what it may read is what the grammar derives, and no step could
stop at another place. So a text stands for one value at most.
-/

namespace GoDto.Json

/-- A computation that takes characters from the front of a text, or fails -/
abbrev Decoder : Type → Type := StateT (List Char) Option

namespace Decoder

variable {α β : Type}

/-- The decoder of nothing at all -/
def refuse : Decoder α := fun _ => none

/-- Goes on from an answer, unless there is nothing to go on to. -/
def choose (decoder : Decoder α) (convert : α → Option β) : Decoder β := fun input =>
  (decoder.run input).bind fun found => (convert found.1).map fun value => (value, found.2)

def character : Decoder Char := fun input => input.head?.map fun c => (c, input.tail)

def word (spelling : List Char) : Decoder Unit := fun input =>
  if input.take spelling.length = spelling then some ((), input.drop spelling.length) else none

def unit : Decoder Nat := fun input => (unit? (input.take 4)).map fun value => (value, input.drop 4)

/-- The character of a number, unless that is too large or the number of a surrogate. -/
def ofNumber? (number : Nat) : Option Char :=
  if (Char.ofNat number).toNat = number then some (Char.ofNat number) else none

def plain : Decoder Char := character.choose (Option.guard isPlain)

def letter : Decoder Char := (do word ['\\']; character).choose fun c => letters.lookup c

def escapedUnit : Decoder Nat := do
  word ['\\', 'u']
  unit

def single : Decoder Char := escapedUnit.choose ofNumber?

def pair : Decoder Char :=
  (do let high ← escapedUnit; (high, ·) <$> escapedUnit).choose fun units =>
    (pair? units.1 units.2).bind ofNumber?

def spelled : Decoder Char := plain <|> letter <|> single <|> pair

/-- Nothing up to an end, or one item and what is read behind it. -/
def endOr (ending : Decoder Unit) (item : Decoder α) (later : Decoder (List α)) : Decoder (List α) :=
  (fun _ => []) <$> ending <|> do
    let first ← item
    (first :: ·) <$> later

/-- Items up to an end, less of them than the limit. -/
def untilWithin (ending : Decoder Unit) (item : Decoder α) : Nat → Decoder (List α)
  | 0 => refuse
  | limit + 1 => endOr ending item (untilWithin ending item limit)

/-- No item is empty, so there cannot be more of them than characters. -/
def repeated (ending : Decoder Unit) (item : Decoder α) : Decoder (List α) := fun input =>
  untilWithin ending item (input.length + 1) input

/-- A character behind white space, which is passed over. -/
def mark (c : Char) : Decoder Unit := fun input =>
  let rest := input.dropWhile isSpace
  if rest.head? = some c then some ((), rest.tail) else none

def literal : Decoder String := do
  mark '"'
  String.ofList <$> repeated (word ['"']) spelled

def further (item : Decoder α) : Decoder α := do
  mark ','
  item

def closed (closer : Char) (item : Decoder α) : Decoder (List α) :=
  endOr (mark closer) item (repeated (mark closer) (further item))

def enclosed (opener closer : Char) (item : Decoder α) : Decoder (List α) := do
  mark opener
  closed closer item

def entry (inner : Decoder Json) : Decoder (String × Json) := do
  let key ← literal
  mark ':'
  (key, ·) <$> inner

def valueWith (inner : Decoder Json) : Decoder Json :=
  Json.text <$> literal <|> Json.list <$> enclosed '[' ']' inner <|>
    Json.object <$> enclosed '\x7b' '\x7d' (entry inner)

/-- A value in which values are nested less deep than the limit. -/
def valueWithin : Nat → Decoder Json
  | 0 => refuse
  | limit + 1 => valueWith (valueWithin limit)

def value : Decoder Json := fun input => valueWithin (input.length + 1) input

/-- Whether a decoder takes from any text just what a relation allows, and answers what this is related to -/
def Exact (decoder : Decoder α) (Item : List Char → α → Prop) : Prop :=
  ∀ input value rest,
    decoder.run input = some (value, rest) ↔ ∃ front, Item front value ∧ input = front ++ rest

/-- Whether no text starts with something of either kind -/
def Apart (First : List Char → α → Prop) (Second : List Char → β → Prop) : Prop :=
  ∀ ⦃front value other entry⦄, First front value → Second other entry →
    ∀ rest later, front ++ rest ≠ other ++ later

section
variable {Item Other : List Char → α → Prop} {decoder other : Decoder α}

theorem Exact.congr (exact : Exact decoder Item) (same : ∀ front value, Item front value ↔ Other front value) :
    Exact decoder Other := by
  intro input value rest
  rw [exact]
  simp only [same]

theorem exact_refuse : Exact (refuse : Decoder α) fun _ _ => False := by
  intro input value rest
  simp [refuse, StateT.run]

theorem Exact.choose (exact : Exact decoder Item) (convert : α → Option β) :
    Exact (decoder.choose convert) fun front found =>
      ∃ value, Item front value ∧ convert value = some found := by
  intro input found rest
  simp only [Decoder.choose, StateT.run, Option.bind_eq_some_iff, Option.map_eq_some_iff, Prod.exists, Prod.mk.injEq]
  constructor
  · rintro ⟨value, left, ran, _, converted, rfl, rfl⟩
    obtain ⟨front, item, rfl⟩ := (exact _ _ _).1 ran
    exact ⟨front, ⟨value, item, converted⟩, rfl⟩
  · rintro ⟨front, ⟨value, item, converted⟩, rfl⟩
    exact ⟨value, rest, (exact _ _ _).2 ⟨front, item, rfl⟩, found, converted, rfl, rfl⟩

theorem Exact.map (exact : Exact decoder Item) (convert : α → β) :
    Exact (convert <$> decoder) fun front found => ∃ value, Item front value ∧ found = convert value := by
  intro input found rest
  simp only [StateT.run_map, Option.map_eq_map, Option.map_eq_some_iff, Prod.exists, Prod.mk.injEq]
  constructor
  · rintro ⟨value, left, ran, rfl, rfl⟩
    obtain ⟨front, item, rfl⟩ := (exact _ _ _).1 ran
    exact ⟨front, ⟨value, item, rfl⟩, rfl⟩
  · rintro ⟨front, ⟨value, item, rfl⟩, rfl⟩
    exact ⟨value, rest, (exact _ _ _).2 ⟨front, item, rfl⟩, rfl, rfl⟩

theorem Exact.bind {Next : α → List Char → β → Prop} {next : α → Decoder β} (exact : Exact decoder Item)
    (after : ∀ value, Exact (next value) (Next value)) :
    Exact (decoder >>= next) fun front found => ∃ value opening closing,
      Item opening value ∧ Next value closing found ∧ front = opening ++ closing := by
  intro input found rest
  simp only [StateT.run_bind, Option.bind_eq_bind, Option.bind_eq_some_iff, Prod.exists]
  constructor
  · rintro ⟨value, left, ran, followed⟩
    obtain ⟨opening, item, rfl⟩ := (exact _ _ _).1 ran
    obtain ⟨closing, next, rfl⟩ := (after _ _ _ _).1 followed
    exact ⟨opening ++ closing, ⟨value, opening, closing, item, next, rfl⟩, (List.append_assoc ..).symm⟩
  · rintro ⟨front, ⟨value, opening, closing, item, next, rfl⟩, rfl⟩
    refine ⟨value, closing ++ rest, (exact _ _ _).2 ⟨opening, item, List.append_assoc ..⟩, ?_⟩
    exact (after _ _ _ _).2 ⟨closing, next, rfl⟩

theorem Exact.orElse (exact : Exact decoder Item) (otherwise : Exact other Other) (apart : Apart Item Other) :
    Exact (decoder <|> other) fun front value => Item front value ∨ Other front value := by
  intro input value rest
  have ran : (decoder <|> other).run input = (decoder.run input).or (other.run input) := by
    change (decoder.run input <|> other.run input) = _
    simp
  simp only [ran, Option.or_eq_some_iff, exact input value rest, otherwise input value rest]
  constructor
  · rintro (⟨front, own, same⟩ | ⟨-, front, others, same⟩)
    · exact ⟨front, .inl own, same⟩
    · exact ⟨front, .inr others, same⟩
  · rintro ⟨front, own | others, same⟩
    · exact .inl ⟨front, own, same⟩
    · refine .inr ⟨Option.eq_none_iff_forall_ne_some.2 ?_, front, others, same⟩
      rintro ⟨answer, left⟩ first
      obtain ⟨opening, item, split⟩ := (exact _ _ _).1 first
      exact apart item others _ _ (split.symm.trans same)

end

/-! Characters between quotes -/

theorem exact_character : Exact character fun front c => front = [c] := by
  intro input c rest
  cases input with
  | nil => simp [character, StateT.run]
  | cons first left => simp [character, StateT.run]

theorem exact_word (spelling : List Char) : Exact (word spelling) fun front _ => front = spelling := by
  intro input value rest
  simp only [word, StateT.run, exists_eq_left]
  constructor
  · intro ran
    split at ran
    next same =>
      cases ran
      rw [← List.take_append_drop spelling.length input, same]
      simp
    next => cases ran
  · rintro rfl
    simp

theorem length_of_unit? {digits : List Char} {value : Nat} (read : unit? digits = some value) :
    digits.length = 4 := by
  unfold unit? at read
  split at read
  next length => exact length
  next => cases read

theorem exact_unit : Exact unit fun front value => unit? front = some value := by
  intro input value rest
  simp only [unit, StateT.run, Option.map_eq_some_iff, Prod.mk.injEq]
  constructor
  · rintro ⟨_, read, rfl, rfl⟩
    exact ⟨input.take 4, read, (List.take_append_drop 4 input).symm⟩
  · rintro ⟨front, read, rfl⟩
    have length := length_of_unit? read
    exact ⟨value, by rwa [← length, List.take_left], rfl, by rw [← length, List.drop_left]⟩

theorem ofNumber?_eq_some_iff {number : Nat} {c : Char} : ofNumber? number = some c ↔ number = c.toNat := by
  unfold ofNumber?
  split
  next same =>
    rw [Option.some.injEq]
    constructor
    · rintro rfl
      exact same.symm
    · rintro rfl
      exact Char.ofNat_toNat c
  next other =>
    constructor
    · intro found
      cases found
    · rintro rfl
      exact absurd (congrArg Char.toNat (Char.ofNat_toNat c)) other

theorem exact_plain : Exact plain fun front c => front = [c] ∧ isPlain c := by
  refine (exact_character.choose _).congr fun front c => ?_
  simp only [Option.guard_eq_some_iff]
  constructor
  · rintro ⟨_, rfl, rfl, plain⟩
    exact ⟨rfl, plain⟩
  · rintro ⟨rfl, plain⟩
    exact ⟨c, rfl, rfl, plain⟩

theorem exact_letter :
    Exact letter fun front c => ∃ letter, front = ['\\', letter] ∧ letters.lookup letter = some c := by
  refine (((exact_word _).bind fun _ => exact_character).choose _).congr fun front c => ?_
  simp

theorem exact_escapedUnit :
    Exact escapedUnit fun front value => ∃ digits, front = '\\' :: 'u' :: digits ∧ unit? digits = some value := by
  refine ((exact_word _).bind fun _ => exact_unit).congr fun front value => ?_
  constructor
  · rintro ⟨-, _, digits, rfl, read, rfl⟩
    exact ⟨digits, rfl, read⟩
  · rintro ⟨digits, rfl, read⟩
    exact ⟨(), _, digits, rfl, read, rfl⟩

theorem exact_single :
    Exact single fun front c => ∃ digits, front = '\\' :: 'u' :: digits ∧ unit? digits = some c.toNat := by
  refine (exact_escapedUnit.choose _).congr fun front c => ?_
  simp only [ofNumber?_eq_some_iff]
  constructor
  · rintro ⟨_, unit, rfl⟩
    exact unit
  · intro unit
    exact ⟨c.toNat, unit, rfl⟩

theorem exact_pair :
    Exact pair fun front c => ∃ first second high low,
      front = '\\' :: 'u' :: (first ++ '\\' :: 'u' :: second) ∧ unit? first = some high ∧
        unit? second = some low ∧ pair? high low = some c.toNat := by
  have units := exact_escapedUnit.bind fun high => exact_escapedUnit.map (high, ·)
  refine (units.choose _).congr fun front c => ?_
  simp only [Option.bind_eq_some_iff, ofNumber?_eq_some_iff]
  constructor
  · rintro ⟨_, ⟨high, _, _, ⟨first, rfl, firstRead⟩, ⟨low, ⟨second, rfl, secondRead⟩, rfl⟩, rfl⟩, _, paired, rfl⟩
    exact ⟨first, second, high, low, rfl, firstRead, secondRead, paired⟩
  · rintro ⟨first, second, high, low, rfl, firstRead, secondRead, paired⟩
    refine ⟨(high, low), ?_, c.toNat, paired, rfl⟩
    exact ⟨high, _, _, ⟨first, rfl, firstRead⟩, ⟨low, ⟨second, rfl, secondRead⟩, rfl⟩, rfl⟩

/-- No character has the number of a surrogate. -/
theorem pair?_toNat (c : Char) (low : Nat) : pair? c.toNat low = none := by
  have valid : c.toNat < 0xD800 ∨ 0xDFFF < c.toNat ∧ c.toNat < 0x110000 := c.valid
  unfold pair?
  split
  · omega
  · rfl

theorem exact_spelled : Exact spelled Spells := by
  refine (exact_plain.orElse (exact_letter.orElse (exact_single.orElse exact_pair ?_) ?_) ?_).congr ?_
  -- A number that is a character is not the first half of a pair.
  · rintro front c other d ⟨digits, rfl, read⟩ ⟨first, second, high, low, rfl, firstRead, -, paired⟩
      rest later same
    simp only [List.cons_append, List.append_assoc, List.cons.injEq, true_and] at same
    obtain ⟨rfl, -⟩ := List.append_inj same ((length_of_unit? read).trans (length_of_unit? firstRead).symm)
    rw [read, Option.some.injEq] at firstRead
    rw [← firstRead, pair?_toNat] at paired
    cases paired
  · rintro front c other d ⟨letter, rfl, listed⟩ (⟨digits, rfl, -⟩ | ⟨first, second, _, _, rfl, -⟩)
      rest later same
    all_goals
      obtain ⟨rfl, -⟩ : letter = 'u' ∧ _ := by simpa using same
      cases listed
  · rintro front c other d ⟨rfl, plain⟩
      (⟨letter, rfl, -⟩ | ⟨digits, rfl, -⟩ | ⟨first, second, _, _, rfl, -⟩) rest later same
    all_goals
      obtain ⟨rfl, -⟩ : c = '\\' ∧ _ := by simpa using same
      exact absurd plain (by decide)
  · intro front c
    constructor
    · rintro (⟨rfl, plain⟩ | ⟨letter, rfl, listed⟩ | ⟨digits, rfl, read⟩ |
        ⟨first, second, high, low, rfl, firstRead, secondRead, paired⟩)
      · exact .plain plain
      · exact .letter listed
      · exact .unit read
      · exact .pair firstRead secondRead paired
    · rintro (plain | listed | read | ⟨firstRead, secondRead, paired⟩)
      · exact .inl ⟨rfl, plain⟩
      · exact .inr (.inl ⟨_, rfl, listed⟩)
      · exact .inr (.inr (.inl ⟨_, rfl, read⟩))
      · exact .inr (.inr (.inr ⟨_, _, _, _, rfl, firstRead, secondRead, paired⟩))

/-- Two surrogates make one character. -/
example : spelled.run ['\\', 'u', 'd', '8', '3', 'd', '\\', 'u', 'D', 'E', '0', '0', '"'] =
    some (Char.ofNat 0x1F600, ['"']) := by
  decide

section
variable {Item : List Char → α → Prop} {End : List Char → Prop} {item : Decoder α} {ending : Decoder Unit}

theorem exact_endOr {Later : List Char → List α → Prop} {later : Decoder (List α)} (items : Exact item Item)
    (ends : Exact ending fun front _ => End front) (laters : Exact later Later)
    (apart : Apart (fun front (_ : Unit) => End front) Item) :
    Exact (endOr ending item later) fun front values => values = [] ∧ End front ∨
      ∃ first rest opening closing, values = first :: rest ∧ front = opening ++ closing ∧
        Item opening first ∧ Later closing rest := by
  have more := items.bind fun first => laters.map (first :: ·)
  refine ((ends.map fun _ => []).orElse more ?_).congr fun front values => ?_
  · rintro front values other entry ⟨-, closes, -⟩ ⟨first, opening, closing, own, -, rfl⟩ rest later same
    rw [List.append_assoc] at same
    exact @apart _ () _ _ closes own _ _ same
  · constructor
    · rintro (⟨-, closes, rfl⟩ | ⟨first, opening, closing, own, ⟨rest, behind, rfl⟩, rfl⟩)
      · exact .inl ⟨rfl, closes⟩
      · exact .inr ⟨first, rest, opening, closing, rfl, rfl, own, behind⟩
    · rintro (⟨rfl, closes⟩ | ⟨first, rest, opening, closing, rfl, rfl, own, behind⟩)
      · exact .inl ⟨(), closes, rfl⟩
      · exact .inr ⟨first, opening, closing, own, ⟨rest, behind, rfl⟩, rfl⟩

theorem exact_untilWithin (items : Exact item Item) (ends : Exact ending fun front _ => End front)
    (apart : Apart (fun front (_ : Unit) => End front) Item) (limit : Nat) :
    Exact (untilWithin ending item limit) fun front values =>
      Until Item End front values ∧ values.length < limit := by
  induction limit with
  | zero => exact exact_refuse.congr (by simp)
  | succ limit ih =>
    refine (exact_endOr items ends ih apart).congr fun front values => ?_
    constructor
    · rintro (⟨rfl, closes⟩ | ⟨first, rest, opening, closing, rfl, rfl, own, later, short⟩)
      · exact ⟨.stop closes, Nat.succ_pos limit⟩
      · exact ⟨.step own later, Nat.succ_lt_succ short⟩
    · rintro ⟨closes | ⟨own, later⟩, short⟩
      · exact .inl ⟨rfl, closes⟩
      · exact .inr ⟨_, _, _, _, rfl, rfl, own, later, Nat.lt_of_succ_lt_succ short⟩

theorem length_le_of_until (nonempty : ∀ front value, Item front value → front ≠ []) {front : List Char}
    {values : List α} (items : Until Item End front values) : values.length ≤ front.length := by
  induction items with
  | stop => simp
  | step own _ ih =>
    have taken := List.length_pos_iff.2 (nonempty _ _ own)
    simp only [List.length_cons, List.length_append]
    omega

theorem exact_repeated (items : Exact item Item) (ends : Exact ending fun front _ => End front)
    (apart : Apart (fun front (_ : Unit) => End front) Item)
    (nonempty : ∀ front value, Item front value → front ≠ []) :
    Exact (repeated ending item) (Until Item End) := by
  intro input values rest
  change (untilWithin ending item (input.length + 1)).run input = _ ↔ _
  rw [exact_untilWithin items ends apart]
  constructor
  · rintro ⟨front, ⟨own, -⟩, same⟩
    exact ⟨front, own, same⟩
  · rintro ⟨front, own, rfl⟩
    have short := length_le_of_until nonempty own
    exact ⟨front, ⟨own, by simp; omega⟩, rfl⟩

end

/-! Marks and what they enclose -/

/-- The first character behind white space -/
def first? (input : List Char) : Option Char := (input.dropWhile isSpace).head?

theorem dropWhile_mark {c : Char} {front : List Char} (visible : isSpace c = false) (mark : Mark c front)
    (rest : List Char) : (front ++ rest).dropWhile isSpace = c :: rest := by
  obtain @⟨blank, inside⟩ := mark
  rw [List.append_assoc, List.dropWhile_append_of_pos inside]
  simp [visible]

/-- Whether everything of a kind has this mark first -/
def Starts (c : Char) (Item : List Char → α → Prop) : Prop :=
  ∀ ⦃front value⦄, Item front value → ∀ rest, first? (front ++ rest) = some c

/-- Whether nothing of a kind has this mark first -/
def Avoids (c : Char) (Item : List Char → α → Prop) : Prop :=
  ∀ ⦃front value⦄, Item front value → ∀ rest, first? (front ++ rest) ≠ some c

theorem Starts.avoids {c d : Char} {Item : List Char → α → Prop} (starts : Starts c Item) (other : c ≠ d) :
    Avoids d Item := by
  intro front value own rest same
  rw [starts own, Option.some.injEq] at same
  exact other same

theorem Starts.apart {c : Char} {First : List Char → α → Prop} {Second : List Char → β → Prop}
    (starts : Starts c First) (avoids : Avoids c Second) : Apart First Second := by
  intro front value other entry first second rest later same
  exact avoids second later (same ▸ starts first rest)

theorem first?_mark {c : Char} {front : List Char} (visible : isSpace c = false) (mark : Mark c front)
    (rest : List Char) : first? (front ++ rest) = some c := by
  rw [first?, dropWhile_mark visible mark]
  rfl

theorem starts_mark {c : Char} (visible : isSpace c = false) : Starts c fun front (_ : Unit) => Mark c front :=
  fun _ _ mark => first?_mark visible mark

theorem exact_mark (c : Char) (visible : isSpace c = false) : Exact (mark c) fun front _ => Mark c front := by
  intro input value rest
  simp only [Decoder.mark, StateT.run]
  constructor
  · intro ran
    split at ran
    next found =>
      cases ran
      obtain ⟨left, same⟩ := List.head?_eq_some_iff.1 found
      have blank : Blank (input.takeWhile isSpace) := List.all_eq_true.1 List.all_takeWhile
      refine ⟨_, .intro blank, ?_⟩
      rw [same, List.append_assoc, List.singleton_append, List.tail_cons, ← same,
        List.takeWhile_append_dropWhile]
    next => cases ran
  · rintro ⟨front, mark, rfl⟩
    simp [dropWhile_mark visible mark]

theorem exact_literal : Exact literal Literal := by
  have apart : Apart (fun front (_ : Unit) => front = ['"']) Spells := by
    rintro front _ other c rfl (plain | _ | _ | _) rest later same
    · obtain ⟨rfl, -⟩ : '"' = c ∧ _ := by simpa using same
      exact absurd plain (by decide)
    all_goals simp at same
  have nonempty : ∀ front c, Spells front c → front ≠ [] := by
    rintro front c (_ | _ | _ | _)
    all_goals simp
  have chars := exact_repeated exact_spelled (exact_word ['"']) apart nonempty
  refine ((exact_mark '"' rfl).bind fun _ => chars.map String.ofList).congr fun front text => ?_
  constructor
  · rintro ⟨-, opener, rest, mark, ⟨chars, items, rfl⟩, rfl⟩
    exact .intro mark (by rwa [String.toList_ofList])
  · rintro ⟨mark, items⟩
    exact ⟨(), _, _, mark, ⟨_, items, String.ofList_toList.symm⟩, rfl⟩

section
variable {Item : List Char → α → Prop} {item : Decoder α}

theorem exact_further (items : Exact item Item) : Exact (further item) (Further Item) := by
  refine ((exact_mark ',' rfl).bind fun _ => items).congr fun front value => ?_
  constructor
  · rintro ⟨-, comma, rest, mark, own, rfl⟩
    exact .intro mark own
  · rintro ⟨mark, own⟩
    exact ⟨(), _, _, mark, own, rfl⟩

theorem starts_further : Starts ',' (Further Item) := by
  rintro front value ⟨comma, -⟩ rest
  rw [List.append_assoc, first?_mark rfl comma]

theorem exact_closed {closer : Char} (visible : isSpace closer = false) (other : ',' ≠ closer)
    (items : Exact item Item) (avoids : Avoids closer Item) :
    Exact (closed closer item) (Closed closer Item) := by
  have nonempty : ∀ front value, Further Item front value → front ≠ [] := by
    rintro front value ⟨comma, -⟩
    have taken := List.length_pos_iff.1 comma.length_pos
    simp [taken]
  have later := exact_repeated (exact_further items) (exact_mark closer visible)
    ((starts_mark visible).apart (starts_further.avoids other)) nonempty
  have ends := exact_mark closer visible
  refine (exact_endOr items ends later ((starts_mark visible).apart avoids)).congr fun front values => ?_
  constructor
  · rintro (⟨rfl, closes⟩ | ⟨first, rest, opening, closing, rfl, rfl, own, later⟩)
    · exact .none closes
    · exact .some own later
  · rintro (closes | ⟨own, later⟩)
    · exact .inl ⟨rfl, closes⟩
    · exact .inr ⟨_, _, _, _, rfl, rfl, own, later⟩

theorem exact_enclosed {opener closer : Char} (visible : isSpace opener = false)
    (closed : Exact (closed closer item) (Closed closer Item)) :
    Exact (enclosed opener closer item) (Enclosed opener closer Item) := by
  refine ((exact_mark opener visible).bind fun _ => closed).congr fun front values => ?_
  constructor
  · rintro ⟨-, front, rest, mark, closed, rfl⟩
    exact .intro mark closed
  · rintro ⟨mark, closed⟩
    exact ⟨(), _, _, mark, closed, rfl⟩

theorem starts_enclosed {opener closer : Char} (visible : isSpace opener = false) :
    Starts opener (Enclosed opener closer Item) := by
  rintro front values ⟨mark, -⟩ rest
  rw [List.append_assoc, first?_mark visible mark]

end

/-! Values -/

theorem starts_literal : Starts '"' Literal := by
  rintro front text ⟨opener, -⟩ rest
  rw [List.append_assoc, first?_mark rfl opener]

section
variable {Inner : List Char → Json → Prop} {inner : Decoder Json}

theorem exact_entry (values : Exact inner Inner) : Exact (entry inner) (Entry Inner) := by
  have steps := exact_literal.bind fun key => (exact_mark ':' rfl).bind fun _ => values.map (key, ·)
  refine steps.congr fun front entry => ?_
  constructor
  · rintro ⟨key, name, _, literal, ⟨-, colon, rest, mark, ⟨json, own, rfl⟩, rfl⟩, rfl⟩
    exact .intro literal mark own
  · rintro ⟨literal, mark, own⟩
    exact ⟨_, _, _, literal, ⟨(), _, _, mark, ⟨_, own, rfl⟩, rfl⟩, rfl⟩

theorem starts_entry : Starts '"' (Entry Inner) := by
  rintro front entry ⟨literal, -⟩ rest
  rw [List.append_assoc, starts_literal literal]

theorem avoids_rule : Avoids ']' (Rule Inner) := by
  rintro front json (literal | list | object)
  · exact starts_literal.avoids (by decide) literal
  · exact (starts_enclosed rfl).avoids (by decide) list
  · exact (starts_enclosed rfl).avoids (by decide) object

theorem exact_valueWith (values : Exact inner Inner) (avoids : Avoids ']' Inner) :
    Exact (valueWith inner) (Rule Inner) := by
  have lists : Exact (enclosed '[' ']' inner) (Enclosed '[' ']' Inner) :=
    exact_enclosed rfl (exact_closed rfl (by decide) values avoids)
  have objects : Exact (enclosed '\x7b' '\x7d' (entry inner)) (Enclosed '\x7b' '\x7d' (Entry Inner)) :=
    exact_enclosed rfl (exact_closed rfl (by decide) (exact_entry values) (starts_entry.avoids (by decide)))
  refine ((exact_literal.map Json.text).orElse ((lists.map Json.list).orElse
    (objects.map Json.object) ?_) ?_).congr fun front json => ?_
  · rintro front json other _ ⟨items, list, -⟩ ⟨entries, object, -⟩
    exact (starts_enclosed rfl).apart ((starts_enclosed rfl).avoids (by decide)) list object
  · rintro front json other _ ⟨text, literal, -⟩ (⟨items, list, -⟩ | ⟨entries, object, -⟩)
    · exact starts_literal.apart ((starts_enclosed rfl).avoids (by decide)) literal list
    · exact starts_literal.apart ((starts_enclosed rfl).avoids (by decide)) literal object
  · constructor
    · rintro (⟨text, literal, rfl⟩ | ⟨items, list, rfl⟩ | ⟨entries, object, rfl⟩)
      · exact .text literal
      · exact .list list
      · exact .object object
    · rintro (literal | list | object)
      · exact .inl ⟨_, literal, rfl⟩
      · exact .inr (.inl ⟨_, list, rfl⟩)
      · exact .inr (.inr ⟨_, object, rfl⟩)

end

/-- What a value with a limited number of levels derives from -/
def WrittenWithin : Nat → List Char → Json → Prop
  | 0 => fun _ _ => False
  | limit + 1 => Rule (WrittenWithin limit)

theorem exact_valueWithin (limit : Nat) : Exact (valueWithin limit) (WrittenWithin limit) := by
  induction limit with
  | zero => exact exact_refuse
  | succ limit ih =>
    have avoids : Avoids ']' (WrittenWithin limit) := by
      cases limit with
      | zero => rintro _ _ ⟨⟩
      | succ => exact avoids_rule
    exact exact_valueWith ih avoids

theorem written_of_within {limit : Nat} {front : List Char} {json : Json}
    (within : WrittenWithin limit front json) : Written front json := by
  induction limit generalizing front json with
  | zero => cases within
  | succ limit ih => exact .intro (Rule.imp (fun _ _ _ inner => ih inner) within)

theorem within_of_written {limit : Nat} {front : List Char} {json : Json} (written : Written front json)
    (short : front.length < limit) : WrittenWithin limit front json := by
  induction limit generalizing front json with
  | zero => omega
  | succ limit ih =>
    obtain ⟨rule⟩ := written
    exact rule.imp fun inner json shorter written => ih written (by omega)

theorem run_value (input : List Char) : value.run input = (valueWithin (input.length + 1)).run input := by
  simp only [value, StateT.run]

theorem exact_value : Exact value Written := by
  intro input json rest
  rw [run_value, exact_valueWithin]
  constructor
  · rintro ⟨front, within, same⟩
    exact ⟨front, written_of_within within, same⟩
  · rintro ⟨front, written, rfl⟩
    exact ⟨front, within_of_written written (by rw [List.length_append]; omega), rfl⟩

end Decoder

/-- The value of a text, with nothing but white space behind it -/
def decode? (text : String) : Option Json := do
  let (json, rest) ← Decoder.value.run text.toList
  if rest.all isSpace then some json else none

/-- The decoder and the grammar agree on every text. -/
theorem decode?_eq_some_iff {text : String} {json : Json} : decode? text = some json ↔ Denotes text json := by
  simp only [decode?, Option.bind_eq_bind, Option.bind_eq_some_iff, Prod.exists]
  constructor
  · rintro ⟨found, rest, ran, ended⟩
    obtain ⟨front, written, same⟩ := (Decoder.exact_value _ _ _).1 ran
    split at ended
    next blank =>
      cases ended
      exact ⟨front, rest, same, written, List.all_eq_true.1 blank⟩
    next => cases ended
  · rintro ⟨front, blank, same, written, space⟩
    refine ⟨json, blank, (Decoder.exact_value _ _ _).2 ⟨front, written, same⟩, ?_⟩
    rw [if_pos (List.all_eq_true.2 space)]

/-- A text stands for one value at most. -/
theorem Denotes.unique {text : String} {first second : Json} (own : Denotes text first)
    (other : Denotes text second) : first = second :=
  Option.some.inj ((decode?_eq_some_iff.2 own).symm.trans (decode?_eq_some_iff.2 other))

theorem denotes_document_iff {json value : Json} : Denotes json.document value ↔ value = json := by
  constructor
  · intro other
    exact other.unique (denotes_document json)
  · rintro rfl
    exact denotes_document value

theorem denotes_quoted_iff {text : String} {value : Json} :
    Denotes (Text.quoted text) value ↔ value = .text text := by
  constructor
  · intro other
    exact other.unique (denotes_quoted text)
  · rintro rfl
    exact denotes_quoted text

theorem decode?_document (json : Json) : decode? json.document = some json :=
  decode?_eq_some_iff.2 (denotes_document json)

theorem decode?_quoted (text : String) : decode? (Text.quoted text) = some (.text text) :=
  decode?_eq_some_iff.2 (denotes_quoted text)

end GoDto.Json
