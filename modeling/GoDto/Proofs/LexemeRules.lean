import GoDto.Proofs.LexemeSeam
import GoDto.Proofs.Pattern

/-!
The lexemes as one regular expression, whose alternatives are tried in turn. The scanners read what
the first alternative that matches would match. Of an unclosed block comment, which they do not read,
the expression matches the opening alone.
-/

namespace GoDto

namespace Lexeme

open Unicode Pattern

/-- The alternatives of the expression. Numbers, comments and operators have two each. -/
inductive Rule where
  | lineComment
  | blockComment
  | commentOpening
  | rawString
  | string
  | rune
  | fraction
  | number
  | name
  | longOperator
  | shortOperator
  | blank
  deriving DecidableEq, Repr

theorem Split.map_front_after (found : Option Split) (opening : List Char) :
    (found.map (·.after opening)).map (·.front.length) =
      (found.map (·.front.length)).map (opening.length + ·) := by
  cases found <;> simp

namespace Rule

/-- A literal on one line, in which a backslash hides the character after it -/
def quoted (mark : Char) : Pattern :=
  both (one (· == mark)) (both (many (either (one fun c => c != mark && c != '\\' && c != '\n')
    (both (one (· == '\\')) (one (· != '\n'))))) (one (· == mark)))

def numberParts : Pattern := many (either (both (one isExponentMark) (one isSign)) (one isNumberPart))

/-- The operators of several characters that do not end like an assignment -/
def joinedOperators : List String :=
  ["...", "<<=", ">>=", "&^=", "&&", "||", "<-", "++", "--", "==", "!=", "<=", ">=", ":=", "<<", ">>", "&^"]

def assigned : List Char := ['-', '+', '*', '/', '%', '&', '|', '^']

def single : List Char :=
  ['-', '+', '*', '/', '%', '&', '|', '^', '<', '>', '=', '!', '~', '(', ')', '.', ',', ';', ':', '[', ']',
    '\x7b', '\x7d']

def pattern : Rule → Pattern
  | lineComment => both (spelled ['/', '/']) (many (one (· != '\n')))
  | blockComment => both (spelled ['/', '*']) (both (few (one fun _ => true)) (spelled ['*', '/']))
  | commentOpening => spelled ['/', '*']
  | rawString => both (one (· == '\x60')) (both (many (one (· != '\x60'))) (one (· == '\x60')))
  | string => quoted '"'
  | rune => quoted '\''
  | fraction => both (one (· == '.')) (both (one isDigit) numberParts)
  | number => both (one isDigit) numberParts
  | name => both (one startsName) (many (one isNamePart))
  | longOperator => either (anyOf joinedOperators) (both (one (assigned.contains ·)) (spelled ['=']))
  | shortOperator => one (single.contains ·)
  | blank => both (one isBlank) (many (one isBlank))

/-- The alternatives that their first characters tell from all others -/
def delimited : List Rule := [lineComment, blockComment, commentOpening, rawString, string, rune]

def plain : List Rule := [fraction, number, name, longOperator, shortOperator, blank]

/-- The shape of what the alternative matches; the opening of a comment alone is no lexeme. -/
def shape? : Rule → Option Shape
  | lineComment => some .comment
  | blockComment => some .comment
  | commentOpening => none
  | rawString => some .rawString
  | string => some .string
  | rune => some .rune
  | fraction => some .number
  | number => some .number
  | name => some .name
  | longOperator => some .operator
  | shortOperator => some .operator
  | blank => some .blank

def firstOf? (rules : List Rule) (text : List Char) : Option (Rule × Nat) :=
  rules.findSome? fun rule => (rule.pattern.first? text).map (rule, ·)

/-- The first alternative that matches at the front of a text, and how many characters it takes -/
def first? (text : List Char) : Option (Rule × Nat) := firstOf? (delimited ++ plain) text

section
variable {text : List Char} {rule : Rule} {length : Nat}

/-- A text may be cut behind what is matched. -/
theorem first?_take {bound : Nat} (found : first? text = some (rule, length)) (inside : length ≤ bound) :
    first? (text.take bound) = some (rule, length) := by
  obtain ⟨before, own, after, split, matched, none⟩ := List.findSome?_eq_some_iff.1 found
  obtain ⟨_, matched, same⟩ := Option.map_eq_some_iff.1 matched
  cases same
  refine List.findSome?_eq_some_iff.2 ⟨before, rule, after, split, ?_, ?_⟩
  · rw [Pattern.first?_take matched inside]
    rfl
  · intro other member
    rw [Pattern.first?_take_of_none (Option.map_eq_none_iff.1 (none other member))]
    rfl

end

section
variable {c mark : Char} {rest : List Char}

theorem first?_raw (text : List Char) :
    (both (many (one (· != '\x60'))) (one (· == '\x60'))).first? text =
      (closeRaw text).map (·.front.length) := by
  fun_induction closeRaw text with
  | case1 => rfl
  | case2 rest =>
    rw [first?_both_many_of_none (by simp [ways_one])]
    rfl
  | case3 c rest other ih =>
    have round : (one (· != '\x60')).ways (c :: rest) = [1] := by simp [ways_one, other]
    have last : (one (· == '\x60')).first? (c :: rest) = none := by simp [Pattern.first?, ways_one, other]
    rw [first?_both_many round Nat.one_pos, last, Option.or_none, Split.map_front_after, ← ih]
    rfl

theorem first?_comment (text : List Char) :
    (both (few (one fun _ => true)) (spelled ['*', '/'])).first? text =
      (closeComment text).map (·.front.length) := by
  fun_induction closeComment text with
  | case1 => rfl
  | case2 rest =>
    rw [first?_both_few rfl Nat.one_pos, first?_spelled]
    rfl
  | case3 c rest goesOn ih =>
    have last : (spelled ['*', '/']).first? (c :: rest) = none := by
      rw [first?_spelled, Option.map_eq_none_iff]
      cases rest with
      | nil => simp [strip?]
      | cons d rest =>
        simp only [strip?, ite_eq_right_iff]
        rintro rfl rfl
        exact absurd rfl (goesOn rest rfl)
    rw [first?_both_few rfl Nat.one_pos, last, Option.none_or, Split.map_front_after, ← ih]
    rfl

/-- The rounds of a literal: a character that is neither its mark nor a backslash, or two characters -/
theorem ways_literalPart (mark c : Char) (rest : List Char) :
    (either (one fun c => c != mark && c != '\\' && c != '\n')
      (both (one (· == '\\')) (one (· != '\n')))).ways (c :: rest) =
      if c = '\\' then if rest.head?.any (· != '\n') then [2] else []
      else if c = mark ∨ c = '\n' then [] else [1] := by
  change (one _).ways (c :: rest) ++ (both _ _).ways (c :: rest) = _
  rw [ways_one, ways_one_both]
  by_cases backslash : c = '\\'
  · subst backslash
    cases rest with
    | nil => simp [ways]
    | cons d rest => by_cases line : d = '\n' <;> simp [ways_one, line]
  · by_cases ends : c = mark ∨ c = '\n'
    · rcases ends with rfl | rfl <;> simp [backslash]
    · obtain ⟨other, line⟩ := not_or.1 ends
      simp [backslash, other, line]

theorem first?_literal (other : mark ≠ '\\') (text : List Char) :
    (both (many (either (one fun c => c != mark && c != '\\' && c != '\n')
      (both (one (· == '\\')) (one (· != '\n'))))) (one (· == mark))).first? text =
      (closeLiteral mark text).map (·.front.length) := by
  have last (c : Char) (rest : List Char) (differs : c ≠ mark) :
      (one (· == mark)).first? (c :: rest) = none := by
    simp [Pattern.first?, ways_one, differs]
  fun_induction closeLiteral mark text with
  | case1 => rfl
  | case2 rest =>
    rw [first?_both_many_of_none (by simp [ways_literalPart]), last _ _ (Ne.symm other)]
    rfl
  | case3 c rest inside ih =>
    have round := ways_literalPart mark '\\' (c :: rest)
    rw [if_pos rfl, if_pos (by simpa using inside)] at round
    rw [first?_both_many round Nat.two_pos, last _ _ (Ne.symm other), Option.or_none]
    rw [Split.map_front_after, ← ih]
    rfl
  | case4 rest =>
    rw [first?_both_many_of_none (by simp [ways_literalPart, other])]
    simp [Pattern.first?, ways_one]
  | case5 c rest goesOn differs ends =>
    have round := ways_literalPart mark c rest
    rcases ends with rfl | rfl
    · rw [if_neg (by decide), if_pos (.inr rfl)] at round
      rw [first?_both_many_of_none round, last _ _ differs]
      rfl
    · cases rest with
      | cons d rest => exact absurd rfl (goesOn d rest rfl)
      | nil =>
        rw [first?_both_many_of_none (by simpa using round), last _ _ differs]
        rfl
  | case6 c rest goesOn differs ends ih =>
    obtain ⟨line, backslash⟩ := not_or.1 ends
    have round := ways_literalPart mark c rest
    rw [if_neg backslash, if_neg (not_or.2 ⟨differs, line⟩)] at round
    rw [first?_both_many round Nat.one_pos, last _ _ differs, Option.or_none]
    rw [Split.map_front_after, ← ih]
    rfl

/-- The rounds of a number: a mark and a sign, or any character that may stand in a number -/
theorem ways_numberPart (c : Char) (rest : List Char) :
    (either (both (one isExponentMark) (one isSign)) (one isNumberPart)).ways (c :: rest) =
      (if isExponentMark c && rest.head?.any isSign then [2] else []) ++
        if isNumberPart c then [1] else [] := by
  change (both _ _).ways (c :: rest) ++ (one _).ways (c :: rest) = _
  rw [ways_one, ways_one_both]
  congr 1
  cases rest with
  | nil => simp [ways]
  | cons d rest =>
    by_cases mark : isExponentMark c = true
    · by_cases sign : isSign d = true <;> simp [ways_one, mark, sign]
    · simp [mark]

theorem first?_numberParts (text : List Char) :
    numberParts.first? text = some (numberRest text).front.length := by
  fun_induction numberRest text with
  | case1 => rfl
  | case2 c part =>
    have round := ways_numberPart c []
    have ended : numberParts.first? [] = some 0 := rfl
    rw [if_neg (by simp), if_pos part, List.nil_append] at round
    have read := first?_many round Nat.one_pos ended
    exact read
  | case3 c part =>
    have round := ways_numberPart c []
    rw [if_neg (by simp), if_neg part] at round
    exact first?_many_of_none round
  | case4 c next rest signed ih =>
    have round := ways_numberPart c (next :: rest)
    rw [if_pos (by simpa using signed), List.singleton_append] at round
    rw [Split.front_after, List.length_append]
    exact first?_many round Nat.two_pos ih
  | case5 c next rest unsigned part ih =>
    have round := ways_numberPart c (next :: rest)
    rw [if_neg (by simpa using unsigned), if_pos part, List.nil_append] at round
    rw [Split.front_after, List.length_append]
    exact first?_many round Nat.one_pos ih
  | case6 c next rest unsigned part =>
    have round := ways_numberPart c (next :: rest)
    rw [if_neg (by simpa using unsigned), if_neg part] at round
    exact first?_many_of_none round

theorem operators_eq : operators = joinedOperators ++ ((assigned.map fun c => String.ofList [c, '=']) ++
    single.map fun c => String.ofList [c]) := by decide

/-- Spellings that differ in the first character are told apart by it. -/
theorem findSome?_strip? (chars ending text : List Char) :
    ((chars.map fun c => String.ofList (c :: ending)).findSome? fun spelling =>
      (strip? spelling.toList text).map fun _ => spelling.toList.length) =
    (both (one (chars.contains ·)) (spelled ending)).first? text := by
  cases text with
  | nil =>
    apply List.findSome?_eq_none_iff.2
    intro spelling member
    obtain ⟨c, -, rfl⟩ := List.mem_map.1 member
    rw [String.toList_ofList]
    rfl
  | cons d text =>
    rw [first?_one_both, first?_spelled]
    induction chars with
    | nil => rfl
    | cons c chars ih =>
      rw [List.map_cons, List.findSome?_cons, ih, String.toList_ofList, strip?, List.contains_cons]
      by_cases same : c = d
      · subst same
        rw [if_pos rfl, beq_self_eq_true, Bool.true_or, if_pos rfl]
        cases strip? ending text with
        | none => simp
        | some rest => simp [Nat.add_comm]
      · have differs : (d == c) = false := by simpa using Ne.symm same
        rw [if_neg same, differs, Bool.false_or]
        rfl

theorem first?_operator (text : List Char) :
    (longOperator.pattern.first? text).or (shortOperator.pattern.first? text) =
      (nextOperator? text).map (·.front.length) := by
  have short : shortOperator.pattern.first? text =
      (both (one (single.contains ·)) (spelled [])).first? text := by
    cases text with
    | nil => rfl
    | cons c rest =>
      rw [first?_one_both]
      change (if single.contains c then [1] else []).head? = _
      split <;> rfl
  have long : longOperator.pattern.first? text = ((anyOf joinedOperators).first? text).or
      ((both (one (assigned.contains ·)) (spelled ['='])).first? text) := first?_either ..
  rw [nextOperator?, operators_eq, List.map_findSome?, List.findSome?_append, List.findSome?_append, long,
    short, first?_anyOf, Option.or_assoc, ← findSome?_strip?, ← findSome?_strip?]
  simp only [Option.map_map, Function.comp_def]

theorem nextOperator?_eq_none (other : ∀ spelling ∈ operators, spelling.toList.head? ≠ some c) :
    nextOperator? (c :: rest) = none := by
  apply List.findSome?_eq_none_iff.2
  intro spelling listed
  rw [Option.map_eq_none_iff]
  cases spelled : spelling.toList with
  | nil => exact absurd spelled (operators_nonempty spelling listed)
  | cons d more =>
    have differs : d ≠ c := by
      rintro rfl
      exact other spelling listed (by rw [spelled]; rfl)
    exact if_neg differs

theorem numberRest_of_digit (digit : isDigit c = true) (rest : List Char) :
    numberRest (c :: rest) = (numberRest rest).after [c] := by
  have unmarked : isExponentMark c = false := by
    rw [Bool.eq_false_iff]
    intro mark
    simp only [isExponentMark, Bool.or_eq_true, beq_iff_eq] at mark
    rcases mark with ((rfl | rfl) | rfl) | rfl <;> exact absurd digit (by decide)
  have part : isNumberPart c = true := by simp [isNumberPart, isWord, digit]
  cases rest with
  | nil => simp [numberRest, part, Split.after]
  | cons d rest => simp [numberRest, unmarked, part]

theorem first?_fraction (c : Char) (rest : List Char) : fraction.pattern.first? (c :: rest) =
    if c = '.' ∧ rest.head?.any isDigit then some (numberRest rest).front.length.succ else none := by
  rw [pattern, first?_one_both]
  cases rest with
  | nil => simp [Pattern.first?, ways]
  | cons d rest =>
    rw [first?_one_both, first?_numberParts]
    by_cases dot : c = '.'
    · by_cases digit : isDigit d = true
      · simp [dot, digit, numberRest_of_digit digit, Nat.add_comm]
      · simp [dot, digit]
    · simp [dot]

theorem firstOf?_cons (rule : Rule) (rules : List Rule) (text : List Char) : firstOf? (rule :: rules) text =
    ((rule.pattern.first? text).map (rule, ·)).or (firstOf? rules text) := by
  rw [firstOf?, List.findSome?_cons]
  cases rule.pattern.first? text <;> rfl

theorem firstOf?_append (first second : List Rule) (text : List Char) :
    firstOf? (first ++ second) text = (firstOf? first text).or (firstOf? second text) :=
  List.findSome?_append

/-- Operators are tried before blanks here, but none of them starts with a blank. -/
theorem firstOf?_operator (c : Char) (rest : List Char) :
    match nextOperator? (c :: rest) with
    | some split => ∃ rule, firstOf? [longOperator, shortOperator, blank] (c :: rest) =
        some (rule, split.front.length) ∧ rule.shape? = some .operator
    | none => firstOf? [longOperator, shortOperator, blank] (c :: rest) =
        (blank.pattern.first? (c :: rest)).map (blank, ·) := by
  have operators := first?_operator (c :: rest)
  simp only [firstOf?_cons]
  cases found : nextOperator? (c :: rest) with
  | some split =>
    rw [found] at operators
    cases long : longOperator.pattern.first? (c :: rest) with
    | some length =>
      rw [long] at operators
      cases operators
      exact ⟨longOperator, rfl, rfl⟩
    | none =>
      rw [long, Option.none_or] at operators
      rw [operators]
      exact ⟨shortOperator, rfl, rfl⟩
  | none =>
    rw [found, Option.map_none, Option.or_eq_none_iff] at operators
    rw [operators.1, operators.2]
    exact Option.or_none

/-- What is no comment and no literal is read by the plain alternatives. -/
theorem firstOf?_plain (c : Char) (rest : List Char) : match cutPlain? c rest with
    | some (shape, split) => ∃ rule, firstOf? plain (c :: rest) = some (rule, split.front.length) ∧
        rule.shape? = some shape
    | none => firstOf? plain (c :: rest) = none := by
  have number : number.pattern.first? (c :: rest) =
      if isDigit c then some (numberRest rest).front.length.succ else none := by
    rw [pattern, first?_one_both, first?_numberParts, Option.map_some, Nat.add_comm]
  have name : name.pattern.first? (c :: rest) =
      if startsName c then some (rest.takeWhile isNamePart).length.succ else none := by
    rw [pattern, first?_one_both, first?_many_one, Option.map_some, Nat.add_comm]
  have blanks : blank.pattern.first? (c :: rest) =
      if isBlank c then some (rest.takeWhile isBlank).length.succ else none := by
    rw [pattern, first?_one_both, first?_many_one, Option.map_some, Nat.add_comm]
  have operator := firstOf?_operator c rest
  rw [plain, firstOf?_cons, firstOf?_cons, firstOf?_cons, first?_fraction, number, name, cutPlain?]
  by_cases dotted : c = '.' ∧ rest.head?.any isDigit
  · rw [if_pos (by simp [startsNumber, dotted]), if_pos dotted]
    exact ⟨fraction, rfl, rfl⟩
  rw [if_neg dotted]
  by_cases digit : isDigit c = true
  · rw [if_pos (by simp [startsNumber, digit]), if_pos digit]
    exact ⟨.number, rfl, rfl⟩
  rw [if_neg digit, if_neg (by simpa [startsNumber, digit] using dotted)]
  by_cases letter : startsName c = true
  · rw [if_pos letter, if_pos letter]
    exact ⟨.name, rfl, rfl⟩
  rw [if_neg letter, if_neg letter]
  by_cases gap : isBlank c = true
  · have none : nextOperator? (c :: rest) = none := by
      have others : ∀ spelling ∈ operators, spelling.toList.head?.any isBlank = false := by decide
      apply nextOperator?_eq_none
      intro spelling listed same
      have other := others spelling listed
      simp [same, gap] at other
    rw [none, blanks, if_pos gap] at operator
    rw [if_pos gap]
    exact ⟨blank, operator, rfl⟩
  rw [if_neg gap]
  rw [blanks, if_neg gap] at operator
  cases found : nextOperator? (c :: rest) with
  | some split =>
    rw [found] at operator
    exact operator
  | none =>
    rw [found] at operator
    exact operator

/-- Apart from comments, each delimited alternative starts with a mark of its own. -/
theorem firstOf?_delimited (line : strip? ['/', '/'] (c :: rest) = none)
    (block : strip? ['/', '*'] (c :: rest) = none) : firstOf? delimited (c :: rest) =
    ((if c = '\x60' then ((closeRaw rest).map (·.front.length)).map (1 + ·) else none).map (rawString, ·)).or
      (((if c = '"' then ((closeLiteral '"' rest).map (·.front.length)).map (1 + ·) else none).map
        (string, ·)).or
      ((if c = '\'' then ((closeLiteral '\'' rest).map (·.front.length)).map (1 + ·) else none).map
        (rune, ·))) := by
  have literal (mark : Char) (other : mark ≠ '\\') : (quoted mark).first? (c :: rest) =
      if c = mark then ((closeLiteral mark rest).map (·.front.length)).map (1 + ·) else none := by
    rw [quoted, first?_one_both, first?_literal other]
    simp only [beq_iff_eq]
  simp only [delimited, firstOf?_cons, pattern, first?_spelled_both, first?_spelled, line, block,
    literal '"' (by decide), literal '\'' (by decide), first?_one_both, first?_raw, beq_iff_eq]
  simp [firstOf?]

theorem firstOf?_plain_mark (listed : c ∈ ['\x60', '"', '\'']) :
    firstOf? plain (c :: rest) = none := by
  have other : isDigit c = false ∧ c ≠ '.' ∧ startsName c = false ∧ isBlank c = false ∧
      ∀ spelling ∈ operators, spelling.toList.head? ≠ some c := by
    simp only [List.mem_cons, List.not_mem_nil, or_false] at listed
    rcases listed with rfl | rfl | rfl <;> decide
  obtain ⟨digit, dot, letter, gap, operator⟩ := other
  have cut : cutPlain? c rest = none := by
    simp [cutPlain?, startsNumber, digit, dot, letter, gap, nextOperator?_eq_none operator]
  have none := firstOf?_plain c rest
  rwa [cut] at none

end

/-- What is neither a comment nor a literal is left to the plain alternatives. -/
theorem first?_of_plain {c : Char} {rest : List Char} (line : ∀ more, c = '/' → rest ≠ '/' :: more)
    (block : ∀ more, c = '/' → rest ≠ '*' :: more) (raw : c ≠ '\x60') (string : c ≠ '"')
    (rune : c ≠ '\'') :
    match cutPlain? c rest with
    | some (shape, split) => ∃ rule, first? (c :: rest) = some (rule, split.front.length) ∧
        rule.shape? = some shape
    | none => first? (c :: rest) = if opensComment (c :: rest) then some (commentOpening, 2) else none := by
  have opening (second : Char) (other : ∀ more, c = '/' → rest ≠ second :: more) :
      strip? ['/', second] (c :: rest) = none := by
    cases rest with
    | nil => simp [strip?]
    | cons d rest =>
      simp only [strip?, ite_eq_right_iff]
      rintro rfl rfl
      exact absurd rfl (other rest rfl)
  have delimited : firstOf? delimited (c :: rest) = none := by
    rw [firstOf?_delimited (opening '/' line) (opening '*' block), if_neg raw, if_neg string, if_neg rune]
    rfl
  have opens : opensComment (c :: rest) = false := by
    unfold opensComment
    split
    · next more same =>
      obtain ⟨slash, star⟩ := List.cons.inj same
      exact (block more slash star).elim
    · rfl
  have read := firstOf?_plain c rest
  rw [first?, firstOf?_append, delimited, Option.none_or, opens]
  exact read

/-- Behind an opening mark, a scanner tells how far the alternative for it goes. -/
theorem first?_of_delimited {rule : Rule} {shape : Shape} {c : Char} {rest : List Char}
    (listed : c ∈ ['\x60', '"', '\'']) (closed : Option Split)
    (found : firstOf? delimited (c :: rest) = (closed.map fun split => 1 + split.front.length).map (rule, ·))
    (known : rule.shape? = some shape) :
    match closed.map fun split => (shape, split.after [c]) with
    | some (shape, split) => ∃ rule, first? (c :: rest) = some (rule, split.front.length) ∧
        rule.shape? = some shape
    | none => first? (c :: rest) = if opensComment (c :: rest) then some (commentOpening, 2) else none := by
  rw [first?, firstOf?_append, found]
  cases closed with
  | some split => exact ⟨rule, by simp [Nat.add_comm], known⟩
  | none =>
    have slash : c ≠ '/' := by
      rintro rfl
      exact absurd listed (by decide)
    have opens : opensComment (c :: rest) = false := by
      simp [opensComment, slash]
    simp [firstOf?_plain_mark listed, opens]

/-- The scanners read what the first alternative matches, apart from the opening of a comment that is
not closed. -/
theorem first?_eq (text : List Char) : match cut? text with
    | some (shape, split) => ∃ rule, first? text = some (rule, split.front.length) ∧
        rule.shape? = some shape
    | none => first? text = if opensComment text then some (commentOpening, 2) else none := by
  fun_cases cut? text with
  | case1 => rfl
  | case2 rest =>
    have opening : strip? ['/', '/'] ('/' :: '/' :: rest) = some rest := by simp [strip?]
    refine ⟨lineComment, ?_, rfl⟩
    rw [first?, delimited, List.cons_append, firstOf?_cons, pattern, first?_spelled_both, opening,
      Option.bind_some, first?_many_one, Split.front_after, List.length_append]
    rfl
  | case3 rest =>
    have other : strip? ['/', '/'] ('/' :: '*' :: rest) = none := by simp [strip?]
    have opening : strip? ['/', '*'] ('/' :: '*' :: rest) = some rest := by simp [strip?]
    have found : first? ('/' :: '*' :: rest) =
        ((closeComment rest).map fun split => (blockComment, 2 + split.front.length)).or
          (some (commentOpening, 2)) := by
      simp only [first?, delimited, List.cons_append, firstOf?_cons, pattern, first?_spelled_both,
        first?_spelled, first?_comment, other, opening, Option.bind_some]
      cases closeComment rest <;> simp
    rw [found]
    cases closeComment rest with
    | some split =>
      refine ⟨blockComment, ?_, rfl⟩
      rw [Split.front_after, List.length_append]
      rfl
    | none => rfl
  | case4 rest =>
    refine first?_of_delimited (by decide) _ ?_ (show rawString.shape? = _ from rfl)
    rw [firstOf?_delimited (if_neg (by decide)) (if_neg (by decide))]
    simp [Option.map_map, Function.comp_def]
  | case5 rest =>
    refine first?_of_delimited (by decide) _ ?_ (show string.shape? = _ from rfl)
    rw [firstOf?_delimited (if_neg (by decide)) (if_neg (by decide))]
    simp [Option.map_map, Function.comp_def]
  | case6 rest =>
    refine first?_of_delimited (by decide) _ ?_ (show rune.shape? = _ from rfl)
    rw [firstOf?_delimited (if_neg (by decide)) (if_neg (by decide))]
    simp [Option.map_map, Function.comp_def]
  | case7 c rest comment block raw string rune starts =>
    have read := first?_of_plain comment block raw string rune
    rwa [cutPlain?, if_pos starts] at read
  | case8 c rest comment block raw string rune number starts =>
    have read := first?_of_plain comment block raw string rune
    rwa [cutPlain?, if_neg number, if_pos starts] at read
  | case9 c rest comment block raw string rune number name starts =>
    have read := first?_of_plain comment block raw string rune
    rwa [cutPlain?, if_neg number, if_neg name, if_pos starts] at read
  | case10 c rest comment block raw string rune number name gap =>
    have read := first?_of_plain comment block raw string rune
    rwa [cutPlain?, if_neg number, if_neg name, if_neg gap] at read

end Rule

end Lexeme

end GoDto
