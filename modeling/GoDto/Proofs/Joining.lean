import GoDto.Proofs.LexemeSeam

/-!
Lexemes side by side. Words, blanks, punctuation marks and raw strings are read again as they were
written, if none of them goes on with the one behind it.
-/

namespace GoDto

open Unicode

theorem toList_intercalate_cons (separator first : String) (rest : List String) :
    (String.intercalate separator (first :: rest)).toList =
      first.toList ++ rest.flatMap fun text => separator.toList ++ text.toList := by
  induction rest generalizing first with
  | nil => simp
  | cons second rest ih =>
    rw [String.intercalate_cons_cons, String.toList_append, String.toList_append, ih,
      List.flatMap_cons, List.append_assoc, List.append_assoc]

namespace Lexeme

def word (text : String) : Lexeme := ⟨.name, text.toList⟩

def gap (text : String) : Lexeme := ⟨.blank, text.toList⟩

def mark (text : String) : Lexeme := ⟨.operator, text.toList⟩

def raw (text : String) : Lexeme := ⟨.rawString, '\x60' :: (text.toList ++ ['\x60'])⟩

/-- Punctuation of a single character. No longer operator starts with it but by an equals sign or
another dot. -/
def marks : List String := ["(", ")", "[", "]", "\x7b", "\x7d", ",", ":", "*", "."]

/-- Whether a character starts no word, number, blank, literal or comment, and is no equals sign. -/
def isPlain (c : Char) : Bool :=
  !startsName c && !isDigit c && !isBlank c && c ∉ ['\x60', '"', '\'', '/', '=']

theorem isPlain_iff {c : Char} : isPlain c ↔ startsName c = false ∧ isDigit c = false ∧
    isBlank c = false ∧ c ≠ '\x60' ∧ c ≠ '"' ∧ c ≠ '\'' ∧ c ≠ '/' ∧ c ≠ '=' := by
  simp [isPlain, and_assoc]

theorem single_of_mark {text : String} (listed : text ∈ marks) :
    ∃ c, text.toList = [c] ∧ isPlain c := by
  have plain : ∀ text ∈ marks, text.toList.length = 1 ∧ text.toList.all isPlain := by decide
  obtain ⟨length, all⟩ := plain text listed
  obtain ⟨c, single⟩ := List.length_eq_one_iff.1 length
  exact ⟨c, single, by simpa [single] using all⟩

/-- Lexemes of the four forms -/
inductive Clean : Lexeme → Prop where
  | word {text : String} : IsWord text.toList → Clean (word text)
  | gap {text : String} : text.toList ≠ [] → text.toList.all isBlank → Clean (gap text)
  | mark {text : String} : text ∈ marks → Clean (mark text)
  | raw {text : String} : '\x60' ∉ text.toList → Clean (raw text)

/-- Whether the second of two lexemes does not go on with the first one. -/
def parts (first second : Lexeme) : Bool :=
  match first.shape with
  | .name => second.shape != .name
  | .blank => second.shape != .blank
  | .operator => second != mark "."
  | _ => true

section
variable (text : String) (next : Lexeme)

@[simp]
theorem shape_word : (word text).shape = .name := rfl

@[simp]
theorem shape_gap : (gap text).shape = .blank := rfl

@[simp]
theorem shape_mark : (mark text).shape = .operator := rfl

@[simp]
theorem shape_raw : (raw text).shape = .rawString := rfl

@[simp]
theorem mark_inj {other : String} : mark text = mark other ↔ text = other := by
  simp [mark, String.toList_inj]

theorem ne_mark_of_shape {lexeme : Lexeme} (shape : lexeme.shape ≠ .operator) :
    lexeme ≠ mark text := by
  intro same
  subst same
  exact shape rfl

@[simp]
theorem word_ne_mark {other : String} : word text ≠ mark other := by
  apply ne_mark_of_shape
  simp

@[simp]
theorem gap_ne_mark {other : String} : gap text ≠ mark other := by
  apply ne_mark_of_shape
  simp

@[simp]
theorem parts_word : (word text).parts next = (next.shape != .name) := rfl

@[simp]
theorem parts_gap : (gap text).parts next = (next.shape != .blank) := rfl

@[simp]
theorem parts_mark : (mark text).parts next = (next != mark ".") := rfl

@[simp]
theorem parts_raw : (raw text).parts next = true := rfl

end

/-- The lexemes are all of the four forms, and none goes on with the one before it. -/
def Joined : List Lexeme → Prop
  | [] => True
  | lexeme :: rest => lexeme.Clean ∧ (∀ next ∈ rest.head?, lexeme.parts next) ∧ Joined rest

section
variable {text more : List Char} {test : Char → Bool}

theorem run_eq (inside : ∀ c ∈ text, test c) (stops : ∀ c ∈ more.head?, test c = false) :
    Split.run test (text ++ more) = ⟨text, more⟩ := by
  have stopped : Split.run test more = ⟨[], more⟩ := by
    cases more with
    | nil => rfl
    | cons c more => simp [Split.run, stops c rfl]
  rw [Split.run, Split.mk.injEq] at stopped
  rw [Split.run, List.takeWhile_append_of_pos inside, List.dropWhile_append_of_pos inside, stopped.1,
    stopped.2, List.append_nil]

theorem closeRaw_eq (inside : '\x60' ∉ text) :
    closeRaw (text ++ '\x60' :: more) = some ⟨text ++ ['\x60'], more⟩ := by
  induction text with
  | nil => rfl
  | cons c text ih =>
    have other : c ≠ '\x60' := fun same => inside (same ▸ List.mem_cons_self)
    have later := ih fun member => inside (List.mem_cons_of_mem _ member)
    rw [List.cons_append, closeRaw, if_neg other, later]
    rfl

end

section
variable {more : List Char}

theorem next?_word {c : Char} {rest : List Char} (starts : startsName c)
    (inside : ∀ d ∈ rest, isNamePart d) (stops : ∀ d ∈ more.head?, isNamePart d = false) :
    next? (c :: rest ++ more) = some (⟨.name, c :: rest⟩, more) := by
  have slash : c ≠ '/' := ne_of_class starts (by decide)
  have dot : c ≠ '.' := ne_of_class starts (by decide)
  have number : startsNumber c (rest ++ more) = false := by
    simp [startsNumber, isDigit_of_startsName starts, dot]
  rw [next?, List.cons_append, cut?_of_plain (ne_of_class starts (by decide))
    (ne_of_class starts (by decide)) (ne_of_class starts (by decide))
    fun same => absurd same slash, cutPlain?, if_neg (by simp [number]), if_pos starts,
    run_eq inside stops]
  rfl

theorem next?_gap {text : List Char} (nonempty : text ≠ []) (blank : ∀ c ∈ text, isBlank c)
    (stops : ∀ c ∈ more.head?, isBlank c = false) : next? (text ++ more) = some (⟨.blank, text⟩, more) := by
  obtain ⟨c, rest, rfl⟩ := List.exists_cons_of_ne_nil nonempty
  rw [next?, List.cons_append, cut?_of_blank (blank c List.mem_cons_self), ← List.cons_append,
    run_eq blank stops]
  rfl

theorem next?_raw {text : List Char} (inside : '\x60' ∉ text) :
    next? ('\x60' :: (text ++ ['\x60']) ++ more) =
      some (⟨.rawString, '\x60' :: (text ++ ['\x60'])⟩, more) := by
  rw [next?, List.cons_append, List.append_assoc, List.singleton_append, cut?, closeRaw_eq inside]
  rfl

/-- A mark is read alone, because all longer operators that start with it go on differently. -/
theorem nextOperator?_mark {mark : String} (listed : mark ∈ marks)
    (stops : ∀ d ∈ more.head?, d ≠ '=' ∧ d ≠ '.') :
    nextOperator? (mark.toList ++ more) = some ⟨mark.toList, more⟩ := by
  have known : ∀ mark ∈ marks, mark ∈ operators := by decide
  have longer : ∀ mark ∈ marks, ∀ spelling ∈ operators, spelling.toList.head? = mark.toList.head? →
      spelling = mark ∨ spelling.toList.tail.head? = some '=' ∨
        spelling.toList.tail.head? = some '.' := by decide
  obtain ⟨c, single, -⟩ := single_of_mark listed
  have found : (nextOperator? (mark.toList ++ more)).isSome := by
    rw [nextOperator?, List.findSome?_isSome_iff]
    exact ⟨mark, known mark listed, by simp [single, strip?]⟩
  obtain ⟨split, found⟩ := Option.isSome_iff_exists.1 found
  obtain ⟨spelling, member, matched⟩ := List.exists_of_findSome?_eq_some found
  obtain ⟨rest, stripped, rfl⟩ := Option.map_eq_some_iff.1 matched
  have whole := append_of_strip? stripped
  cases spelled : spelling.toList with
  | nil => exact absurd spelled (operators_nonempty spelling member)
  | cons d tail =>
    rw [spelled, single, List.singleton_append, List.cons_append] at whole
    obtain ⟨rfl, behind⟩ := List.cons.inj whole
    rcases longer mark listed spelling member (by rw [spelled, single]; rfl) with rfl | equals | dot
    · obtain rfl : tail = [] := by simpa [spelled] using single
      obtain rfl : rest = more := behind
      exact found
    · cases tail with
      | nil => simp [spelled] at equals
      | cons e tail =>
        obtain rfl : e = '=' := by simpa [spelled] using equals
        exact absurd rfl (stops '=' (by rw [← behind]; rfl)).1
    · cases tail with
      | nil => simp [spelled] at dot
      | cons e tail =>
        obtain rfl : e = '.' := by simpa [spelled] using dot
        exact absurd rfl (stops '.' (by rw [← behind]; rfl)).2

theorem next?_mark {text : String} (listed : text ∈ marks)
    (stops : ∀ d ∈ more.head?, d ≠ '=' ∧ d ≠ '.' ∧ isDigit d = false) :
    next? (text.toList ++ more) = some (mark text, more) := by
  have operator := nextOperator?_mark listed fun d head => ⟨(stops d head).1, (stops d head).2.1⟩
  obtain ⟨c, single, plain⟩ := single_of_mark listed
  obtain ⟨name, digit, blank, raw, string, rune, slash, -⟩ := isPlain_iff.1 plain
  have number : startsNumber c more = false := by
    cases more with
    | nil => simp [startsNumber, digit]
    | cons d more => simp [startsNumber, digit, (stops d rfl).2.2]
  rw [single, List.singleton_append] at operator ⊢
  rw [next?, cut?_of_plain raw string rune fun same => absurd same slash, cutPlain?,
    if_neg (by simp [number]), if_neg (by simp [name]), if_neg (by simp [blank]), operator, mark,
    single]
  rfl

end

/-- The first character of a lexeme, and so of what stands behind the one before it -/
theorem Clean.head {lexeme : Lexeme} (clean : lexeme.Clean) : ∃ c rest, lexeme.text = c :: rest ∧
    match lexeme.shape with
    | .name => startsName c
    | .blank => isBlank c
    | .operator => isPlain c ∧ rest = []
    | _ => c = '\x60' := by
  cases clean with
  | word isWord =>
    obtain ⟨c, rest, spelled, starts, -⟩ := isWord
    exact ⟨c, rest, spelled, starts⟩
  | @gap text nonempty blank =>
    obtain ⟨c, rest, spelled⟩ := List.exists_cons_of_ne_nil nonempty
    exact ⟨c, rest, spelled, List.all_eq_true.1 blank c (by simp [spelled])⟩
  | @mark text listed =>
    obtain ⟨c, single, plain⟩ := single_of_mark listed
    exact ⟨c, [], single, plain, rfl⟩
  | raw => exact ⟨_, _, rfl, rfl⟩

section
variable {first second : Lexeme} {c : Char}

theorem not_isNamePart_of_head (clean : second.Clean) (parted : second.shape ≠ .name)
    (head : c ∈ second.text.head?) : isNamePart c = false := by
  obtain ⟨d, rest, spelled, starts⟩ := clean.head
  obtain rfl : d = c := by simpa [spelled] using head
  cases shape : second.shape with
  | name => exact absurd shape parted
  | blank => exact isNamePart_of_isBlank (by simpa [shape] using starts)
  | operator =>
    simp only [shape] at starts
    obtain ⟨name, digit, -⟩ := isPlain_iff.1 starts.1
    show (startsName d || isDigit d) = false
    rw [name, digit, Bool.or_false]
  | _ =>
    obtain rfl : d = '\x60' := by simpa [shape] using starts
    decide

theorem not_isBlank_of_head (clean : second.Clean) (parted : second.shape ≠ .blank)
    (head : c ∈ second.text.head?) : isBlank c = false := by
  obtain ⟨d, rest, spelled, starts⟩ := clean.head
  obtain rfl : d = c := by simpa [spelled] using head
  rw [Bool.eq_false_iff]
  intro blank
  cases shape : second.shape with
  | name =>
    simp only [shape] at starts
    simp [startsName_of_isBlank blank] at starts
  | blank => exact parted shape
  | operator =>
    simp only [shape] at starts
    obtain ⟨-, -, unblank, -⟩ := isPlain_iff.1 starts.1
    simp [unblank] at blank
  | _ =>
    obtain rfl : d = '\x60' := by simpa [shape] using starts
    exact absurd blank (by decide)

theorem not_longer_of_head (clean : second.Clean)
    (parted : second ≠ mark ".")
    (head : c ∈ second.text.head?) : c ≠ '=' ∧ c ≠ '.' ∧ isDigit c = false := by
  obtain ⟨d, rest, spelled, starts⟩ := clean.head
  obtain rfl : d = c := by simpa [spelled] using head
  cases shape : second.shape with
  | name =>
    simp only [shape] at starts
    exact ⟨ne_of_class starts (by decide), ne_of_class starts (by decide),
      isDigit_of_startsName starts⟩
  | blank =>
    simp only [shape] at starts
    exact ⟨ne_of_class starts (by decide), ne_of_class starts (by decide),
      isDigit_of_isBlank starts⟩
  | operator =>
    simp only [shape] at starts
    obtain ⟨plain, rfl⟩ := starts
    obtain ⟨-, digit, -, -, -, -, -, equals⟩ := isPlain_iff.1 plain
    refine ⟨equals, ?_, digit⟩
    intro same
    subst same
    apply parted
    rw [mark, Lexeme.mk.injEq]
    exact ⟨shape, spelled⟩
  | _ =>
    obtain rfl : d = '\x60' := by simpa [shape] using starts
    decide

end

/-- The first of joined lexemes is read in front of the others. -/
theorem next?_of_joined {lexeme : Lexeme} {rest : List Lexeme} (joined : Joined (lexeme :: rest)) :
    next? (lexeme.text ++ rest.flatMap text) = some (lexeme, rest.flatMap text) := by
  obtain ⟨clean, parted, later⟩ := joined
  have head : ∀ c ∈ (rest.flatMap text).head?, ∃ next ∈ rest.head?, next.Clean ∧ c ∈ next.text.head? := by
    intro c member
    cases rest with
    | nil => cases member
    | cons next rest =>
      obtain ⟨d, more, spelled, -⟩ := later.1.head
      refine ⟨next, rfl, later.1, ?_⟩
      simpa [spelled] using member
  cases clean with
  | @word text isWord =>
    obtain ⟨c, inner, spelled, starts, inside⟩ := isWord
    have read := @next?_word (rest.flatMap Lexeme.text) c inner starts inside ?_
    · simpa [word, spelled] using read
    · intro d member
      obtain ⟨next, first, nextClean, nextHead⟩ := head d member
      exact not_isNamePart_of_head nextClean (by simpa [parts, word] using parted next first) nextHead
  | gap nonempty blank =>
    refine next?_gap nonempty (List.all_eq_true.1 blank) fun d member => ?_
    obtain ⟨next, first, nextClean, nextHead⟩ := head d member
    exact not_isBlank_of_head nextClean (by simpa [parts, gap] using parted next first) nextHead
  | mark listed =>
    refine next?_mark listed fun d member => ?_
    obtain ⟨next, first, nextClean, nextHead⟩ := head d member
    exact not_longer_of_head nextClean (by simpa using parted next first) nextHead
  | raw inside => exact next?_raw inside

theorem all_of_joined {lexemes : List Lexeme} (joined : Joined lexemes) :
    all (lexemes.flatMap text) = (lexemes, []) := by
  induction lexemes with
  | nil =>
    rw [List.flatMap_nil, all]
    rfl
  | cons lexeme rest ih =>
    rw [List.flatMap_cons, all_of_next? (next?_of_joined joined), ih joined.2.2]

end Lexeme

end GoDto
