import GoDto.Unicode.Blank
import GoDto.Unicode.Word

/-!
Lexemes: the stretches into which a source text falls before it is known which of them are
tokens. `Lexeme.next?` reads the one at the front of a text, and `Lexeme.all` reads one after
another until the text ends or none matches.
-/

namespace GoDto

open Unicode

inductive Lexeme.Shape where
  | comment
  | blank
  | string
  | rawString
  | rune
  | number
  | name
  | operator
  deriving DecidableEq, Repr

structure Lexeme where
  shape : Lexeme.Shape
  text : List Char
  deriving DecidableEq, Repr

namespace Lexeme

/-- Operators and punctuation, each before its own beginnings. -/
def operators : List String :=
  ["...", "<<=", ">>=", "&^=", "&&", "||", "<-", "++", "--", "==", "!=", "<=", ">=", ":=", "<<",
    ">>", "&^", "-=", "+=", "*=", "/=", "%=", "&=", "|=", "^=", "-", "+", "*", "/", "%", "&", "|",
    "^", "<", ">", "=", "!", "~", "(", ")", ".", ",", ";", ":", "[", "]", "\x7b", "\x7d"]

/-- A text cut in two. -/
structure Split where
  front : List Char
  rest : List Char
  deriving DecidableEq, Repr

namespace Split

def whole (split : Split) : List Char := split.front ++ split.rest

/-- Puts more text before the front. -/
def after (split : Split) (opening : List Char) : Split := ⟨opening ++ split.front, split.rest⟩

@[simp]
theorem whole_after (split : Split) (opening : List Char) :
    (split.after opening).whole = opening ++ split.whole :=
  List.append_assoc ..

@[simp]
theorem front_after (split : Split) (opening : List Char) :
    (split.after opening).front = opening ++ split.front := rfl

/-- The longest front whose characters all pass `test`. -/
def run (test : Char → Bool) (text : List Char) : Split :=
  ⟨text.takeWhile test, text.dropWhile test⟩

@[simp]
theorem whole_run (test : Char → Bool) (text : List Char) : (run test text).whole = text :=
  List.takeWhile_append_dropWhile

end Split

/-- Reads on to the end of a block comment. -/
def closeComment : List Char → Option Split
  | [] => none
  | '*' :: '/' :: rest => some ⟨['*', '/'], rest⟩
  | c :: rest => (closeComment rest).map (·.after [c])

/-- Reads on to the closing quote of a literal on one line. A backslash hides the character after
it, which must not be a line break either. -/
def closeLiteral (mark : Char) : List Char → Option Split
  | [] => none
  | '\\' :: c :: rest => if c = '\n' then none else (closeLiteral mark rest).map (·.after ['\\', c])
  | c :: rest =>
    if c = mark then some ⟨[c], rest⟩
    else if c = '\n' ∨ c = '\\' then none
    else (closeLiteral mark rest).map (·.after [c])

/-- Reads on to the closing backtick of a literal that may run over many lines. -/
def closeRaw : List Char → Option Split
  | [] => none
  | c :: rest => if c = '\x60' then some ⟨[c], rest⟩ else (closeRaw rest).map (·.after [c])

def isExponentMark (c : Char) : Bool := c == 'e' || c == 'E' || c == 'p' || c == 'P'

def isSign (c : Char) : Bool := c == '+' || c == '-'

def isNumberPart (c : Char) : Bool := isWord c || c == '.'

/-- What continues a number: words and dots, and a sign only right after the mark of an
exponent. -/
def numberRest : List Char → Split
  | [] => ⟨[], []⟩
  | [c] => if isNumberPart c then ⟨[c], []⟩ else ⟨[], [c]⟩
  | c :: next :: rest =>
    if isExponentMark c && isSign next then (numberRest rest).after [c, next]
    else if isNumberPart c then (numberRest (next :: rest)).after [c]
    else ⟨[], c :: next :: rest⟩

def startsName (c : Char) : Bool := isLetter c || c == '_'

def isNamePart (c : Char) : Bool := isLetter c || c == '_' || isDigit c

/-- A number starts with a digit, or with a dot and a digit. -/
def startsNumber (c : Char) (rest : List Char) : Bool :=
  isDigit c || (c == '.' && rest.head?.any isDigit)

/-- What is left of a text that starts with `spelling`. -/
def strip? : List Char → List Char → Option (List Char)
  | [], text => some text
  | _ :: _, [] => none
  | c :: spelling, d :: text => if c = d then strip? spelling text else none

/-- The first listed operator that the text starts with. -/
def nextOperator? (text : List Char) : Option Split :=
  operators.findSome? fun spelling =>
    (strip? spelling.toList text).map fun rest => ⟨spelling.toList, rest⟩

/-- The shape of the lexeme at the front of a text, and the text cut behind it. A block comment
that is not closed is none. -/
def cut? : List Char → Option (Shape × Split)
  | [] => none
  | '/' :: '/' :: rest => some (.comment, (Split.run (· != '\n') rest).after ['/', '/'])
  | '/' :: '*' :: rest =>
    (closeComment rest).map fun split => (.comment, split.after ['/', '*'])
  | '\x60' :: rest => (closeRaw rest).map fun split => (.rawString, split.after ['\x60'])
  | '"' :: rest => (closeLiteral '"' rest).map fun split => (.string, split.after ['"'])
  | '\'' :: rest => (closeLiteral '\'' rest).map fun split => (.rune, split.after ['\''])
  | c :: rest =>
    if startsNumber c rest then some (.number, (numberRest rest).after [c])
    else if startsName c then some (.name, (Split.run isNamePart rest).after [c])
    else if isBlank c then some (.blank, (Split.run isBlank rest).after [c])
    else (nextOperator? (c :: rest)).map fun split => (.operator, split)

theorem whole_closeComment {text : List Char} {split : Split}
    (found : closeComment text = some split) : split.whole = text := by
  fun_induction closeComment text generalizing split with
  | case1 => simp at found
  | case2 => simp only [Option.some.injEq] at found; subst found; rfl
  | case3 c rest _ ih =>
    obtain ⟨inner, closed, rfl⟩ := Option.map_eq_some_iff.1 found
    simp [ih closed]

theorem whole_closeLiteral {mark : Char} {text : List Char} {split : Split}
    (found : closeLiteral mark text = some split) : split.whole = text := by
  fun_induction closeLiteral mark text generalizing split with
  | case1 => simp at found
  | case2 => simp at found
  | case3 c rest _ ih =>
    obtain ⟨inner, closed, rfl⟩ := Option.map_eq_some_iff.1 found
    simp [ih closed]
  | case4 => simp only [Option.some.injEq] at found; subst found; rfl
  | case5 => simp at found
  | case6 c rest _ _ _ ih =>
    obtain ⟨inner, closed, rfl⟩ := Option.map_eq_some_iff.1 found
    simp [ih closed]

theorem whole_closeRaw {text : List Char} {split : Split}
    (found : closeRaw text = some split) : split.whole = text := by
  fun_induction closeRaw text generalizing split with
  | case1 => simp at found
  | case2 => simp only [Option.some.injEq] at found; subst found; rfl
  | case3 c rest _ ih =>
    obtain ⟨inner, closed, rfl⟩ := Option.map_eq_some_iff.1 found
    simp [ih closed]

@[simp]
theorem whole_numberRest (text : List Char) : (numberRest text).whole = text := by
  fun_induction numberRest text <;> simp_all [Split.whole, Split.after]

theorem append_of_strip? {spelling text rest : List Char}
    (found : strip? spelling text = some rest) : spelling ++ rest = text := by
  fun_induction strip? spelling text <;> simp_all

theorem operators_nonempty : ∀ spelling ∈ operators, spelling.toList ≠ [] := by
  decide

theorem nextOperator?_eq_some {text : List Char} {split : Split}
    (found : nextOperator? text = some split) : split.whole = text ∧ split.front ≠ [] := by
  obtain ⟨spelling, listed, matched⟩ := List.exists_of_findSome?_eq_some found
  obtain ⟨rest, stripped, rfl⟩ := Option.map_eq_some_iff.1 matched
  exact ⟨append_of_strip? stripped, operators_nonempty spelling listed⟩

/-- Reading loses nothing and always takes something. -/
theorem cut?_eq_some {text : List Char} {shape : Shape} {split : Split}
    (found : cut? text = some (shape, split)) : split.whole = text ∧ split.front ≠ [] := by
  unfold cut? at found
  split at found
  · simp at found
  · cases found
    simp
  · obtain ⟨inner, closed, same⟩ := Option.map_eq_some_iff.1 found
    cases same
    simp [whole_closeComment closed]
  · obtain ⟨inner, closed, same⟩ := Option.map_eq_some_iff.1 found
    cases same
    simp [whole_closeRaw closed]
  · obtain ⟨inner, closed, same⟩ := Option.map_eq_some_iff.1 found
    cases same
    simp [whole_closeLiteral closed]
  · obtain ⟨inner, closed, same⟩ := Option.map_eq_some_iff.1 found
    cases same
    simp [whole_closeLiteral closed]
  · split at found
    · cases found
      simp
    · split at found
      · cases found
        simp
      · split at found
        · cases found
          simp
        · obtain ⟨inner, closed, same⟩ := Option.map_eq_some_iff.1 found
          cases same
          exact nextOperator?_eq_some closed

/-- The lexeme at the front of a text, and what follows it. -/
def next? (text : List Char) : Option (Lexeme × List Char) :=
  (cut? text).map fun (shape, split) => (⟨shape, split.front⟩, split.rest)

theorem next?_eq_some {text rest : List Char} {lexeme : Lexeme}
    (found : next? text = some (lexeme, rest)) :
    lexeme.text ++ rest = text ∧ lexeme.text ≠ [] := by
  obtain ⟨⟨shape, split⟩, cut, same⟩ := Option.map_eq_some_iff.1 found
  cases same
  exact cut?_eq_some cut

theorem length_next? {text rest : List Char} {lexeme : Lexeme}
    (found : next? text = some (lexeme, rest)) : rest.length < text.length := by
  obtain ⟨rejoined, nonempty⟩ := next?_eq_some found
  have positive := List.length_pos_iff.2 nonempty
  rw [← rejoined, List.length_append]
  omega

/-- The lexemes of a text one after another, and what is left where none matches. -/
def all (text : List Char) : List Lexeme × List Char :=
  match found : next? text with
  | none => ([], text)
  | some (lexeme, rest) =>
    have := length_next? found
    let (later, stuck) := all rest
    (lexeme :: later, stuck)
termination_by text.length

/-- Whether a block comment is opened here, closed or not. -/
def opensComment : List Char → Bool
  | '/' :: '*' :: _ => true
  | _ => false

/-- The text up to the next place where a lexeme or an unclosed comment starts. -/
def unreadable : List Char → List Char
  | [] => []
  | c :: rest =>
    if (next? (c :: rest)).isSome || opensComment (c :: rest) then [] else c :: unreadable rest

end Lexeme

end GoDto
