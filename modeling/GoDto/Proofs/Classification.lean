import GoDto.Proofs.CodeContents
import GoDto.Proofs.Unreadable

/-!
Kinds of tokens. A token is of the kind that the alternative promises which matched it, and its kind can
be told from the first characters of its text. The exception are numbers that start with a digit other
than those of ASCII: they are matched as numbers, but what is kept of them are operators.
-/

namespace GoDto

namespace Lexeme

open Unicode

/-- What the alternative stands for; comments and blanks stand for no token. -/
def Rule.kind? (rule : Rule) (text : String) : Option Token.Kind :=
  match rule with
  | lineComment | blockComment | commentOpening | blank => none
  | rawString => some .rawString
  | string => some .string
  | rune => some .rune
  | fraction | number => some .number
  | name => some (if text ∈ Token.keywords then .keyword else .identifier)
  | longOperator | shortOperator => some (if text = ";" then .semicolon else .operator)

/-- Whether a text starts like a number, but not with a digit of ASCII -/
def isForeignNumber : List Char → Bool
  | [] => false
  | c :: rest => startsNumber c rest && !(c.isDigit || c == '.' && rest.head?.any Char.isDigit)

/-- The parts of a text that are matched one after another up to its end, with the alternatives -/
inductive Matches : List Char → List (Rule × List Char) → Prop where
  | nil : Matches [] []
  | cons {text : List Char} {rule : Rule} {length : Nat} {later : List (Rule × List Char)} :
      Rule.first? text = some (rule, length) → rule ≠ .commentOpening → Matches (text.drop length) later →
      Matches text ((rule, text.take length) :: later)

/-- The kind of a token, told by the first characters of its text -/
def classify (alphabetic : Char → Bool) (text : List Char) : Token.Kind :=
  match text with
  | [] => .operator
  | '"' :: _ => .string
  | '\x60' :: _ => .rawString
  | '\'' :: _ => .rune
  | ';' :: _ => .semicolon
  | c :: rest =>
    if c.isDigit || c == '.' && rest.head?.any Char.isDigit then .number
    else if c == '_' || alphabetic c then
      if String.ofList text ∈ Token.keywords then .keyword else .identifier
    else .operator

/-- All letters are alphabetic, and neither digits are nor the first characters of operators. -/
structure IsAlphabet (alphabetic : Char → Bool) : Prop where
  letter : ∀ c, isLetter c = true → alphabetic c = true
  digit : ∀ c, isDigit c = true → alphabetic c = false
  operator : ∀ text ∈ operators, text.toList.head?.any alphabetic = false

section
variable {lexeme : Lexeme} {kind : Token.Kind} {text : List Char} {c : Char}

theorem isDigit_of_ascii (ascii : c.isDigit = true) : isDigit c = true := by
  simp only [Char.isDigit, Bool.and_eq_true, decide_eq_true_eq] at ascii
  obtain ⟨low, high⟩ := ascii
  have lower : 48 ≤ c.toNat := low
  have upper : c.toNat ≤ 57 := high
  unfold isDigit digits Ranges.has
  rw [if_neg (by omega), if_pos (by omega)]

theorem isForeignNumber_of_head {rest : List Char} (digit : isDigit c = false) (dot : c ≠ '.') :
    isForeignNumber (c :: rest) = false := by
  simp [isForeignNumber, startsNumber, digit, dot]

/-- Only numbers start like numbers. -/
theorem isForeignNumber_of_shape (formed : lexeme.Formed)
    (other : lexeme.shape ∈ [.string, .rawString, .rune, .name, .operator]) :
    isForeignNumber lexeme.text = false := by
  obtain ⟨shape, text⟩ := lexeme
  have marked {mark : Char} (first : text.head? = some mark) (digit : isDigit mark = false) (dot : mark ≠ '.') :
      isForeignNumber text = false := by
    obtain ⟨rest, rfl⟩ := List.head?_eq_some_iff.1 first
    exact isForeignNumber_of_head digit dot
  cases shape with
  | string => exact marked formed (by decide) (by decide)
  | rawString => exact marked formed (by decide) (by decide)
  | rune => exact marked formed (by decide) (by decide)
  | name =>
    obtain ⟨c, rest, rfl, starts, -⟩ := formed
    exact isForeignNumber_of_head (isDigit_of_startsName starts) (ne_of_class starts (by decide))
  | operator =>
    have plain : ∀ spelling ∈ operators, isForeignNumber spelling.toList = false := by decide
    simpa using plain _ formed
  | comment | blank | number => simp at other

theorem kind?_number (formed : lexeme.Formed) (shape : lexeme.shape = .number) :
    lexeme.kind? = some (if isForeignNumber lexeme.text then .operator else .number) := by
  obtain ⟨_, text⟩ := lexeme
  obtain rfl : _ = Shape.number := shape
  obtain ⟨c, rest, rfl, starts⟩ := formed
  by_cases dot : c = '.'
  · subst dot
    have other : Char.isDigit '.' = false := by decide
    cases digit : rest.head?.any Char.isDigit <;> simp [kind?, isForeignNumber, starts, other, digit]
  · cases digit : c.isDigit <;> simp [kind?, isForeignNumber, starts, dot, digit]

theorem ofList_eq_semicolon_iff : String.ofList text = ";" ↔ text = [';'] := by
  rw [← String.toList_inj, String.toList_ofList]
  rfl

/-- A lexeme stands for what its alternative promises, unless it is a number without a digit of ASCII. -/
theorem kind?_eq {rule : Rule} (formed : lexeme.Formed) (shape : rule.shape? = some lexeme.shape) :
    lexeme.kind? = (rule.kind? (String.ofList lexeme.text)).map fun kind =>
      if isForeignNumber lexeme.text then .operator else kind := by
  have plain := isForeignNumber_of_shape formed
  have number := kind?_number formed
  obtain ⟨_, text⟩ := lexeme
  cases rule with
  | commentOpening => cases shape
  | lineComment | blockComment | blank => cases shape; rfl
  | fraction | number => cases shape; exact number rfl
  | string | rawString | rune => cases shape; simp [plain, kind?, Rule.kind?]
  | name => cases shape; simp [plain, kind?, Rule.kind?]
  | longOperator | shortOperator =>
    cases shape
    simp [plain, kind?, Rule.kind?, ofList_eq_semicolon_iff]

theorem not_mem_of_class {test : Char → Bool} {others : List Char} (passes : test c = true)
    (fails : others.any test = false) : c ∉ others := by
  intro listed
  have found : others.any test = true := List.any_eq_true.2 ⟨c, listed, passes⟩
  simp [found] at fails

theorem classify_cons {alphabetic : Char → Bool} (rest : List Char) (other : c ∉ ['"', '\x60', '\'', ';']) :
    classify alphabetic (c :: rest) =
      if c.isDigit || c == '.' && rest.head?.any Char.isDigit then .number
      else if c == '_' || alphabetic c then
        if String.ofList (c :: rest) ∈ Token.keywords then .keyword else .identifier
      else .operator := by
  unfold classify
  split <;> simp_all

section
variable {alphabetic : Char → Bool} (alphabet : IsAlphabet alphabetic)
include alphabet

theorem classify_number {rest : List Char} (starts : startsNumber c rest = true) :
    classify alphabetic (c :: rest) = if isForeignNumber (c :: rest) then .operator else .number := by
  by_cases digit : isDigit c = true
  · have other : c ∉ ['"', '\x60', '\'', ';'] := not_mem_of_class digit (by decide)
    have dot : c ≠ '.' := ne_of_class digit (by decide)
    have underscore : c ≠ '_' := ne_of_class digit (by decide)
    simp only [classify_cons rest other, isForeignNumber, starts, alphabet.digit c digit,
      beq_eq_false_iff_ne.2 dot, beq_eq_false_iff_ne.2 underscore]
    cases c.isDigit <;> rfl
  · have dot : c = '.' ∧ rest.head?.any isDigit = true := by simpa [startsNumber, digit] using starts
    obtain ⟨rfl, -⟩ := dot
    have plain : alphabetic '.' = false := alphabet.operator "." (by decide)
    have ascii : Char.isDigit '.' = false := by decide
    rw [classify_cons rest (by decide)]
    simp only [isForeignNumber, starts, plain, ascii]
    cases rest.head?.any Char.isDigit <;> rfl

theorem classify_name {rest : List Char} (starts : startsName c = true) : classify alphabetic (c :: rest) =
    if String.ofList (c :: rest) ∈ Token.keywords then .keyword else .identifier := by
  have other : c ∉ ['"', '\x60', '\'', ';'] := not_mem_of_class starts (by decide)
  have dot : c ≠ '.' := ne_of_class starts (by decide)
  have ascii : c.isDigit = false := by
    rw [Bool.eq_false_iff]
    intro ascii
    simpa [isDigit_of_ascii ascii] using isDigit_of_startsName starts
  have named : (c == '_' || alphabetic c) = true := by
    rcases Bool.or_eq_true_iff.1 starts with letter | underscore
    · simp [alphabet.letter c letter]
    · simp [underscore]
  simp [classify_cons rest other, ascii, dot, named]

theorem classify_operator (listed : String.ofList text ∈ operators) :
    classify alphabetic text = if text = [';'] then .semicolon else .operator := by
  have known : ∀ spelling ∈ operators, spelling.toList = [';'] ∨
      (spelling.toList.head?.any fun c => c ∉ ['"', '\x60', '\'', ';'] ∧ c.isDigit = false ∧ c ≠ '_') ∧
        spelling.toList.tail.head?.any Char.isDigit = false := by
    decide
  have plain := alphabet.operator _ listed
  have starts := known _ listed
  rw [String.toList_ofList] at plain starts
  rcases starts with rfl | ⟨starts, goesOn⟩
  · rfl
  · cases text with
    | nil => cases starts
    | cons c rest =>
      obtain ⟨other, ascii, underscore⟩ : c ∉ ['"', '\x60', '\'', ';'] ∧ c.isDigit = false ∧ c ≠ '_' := by
        simpa using starts
      have semicolon : c :: rest ≠ [';'] := by
        intro same
        exact other (by simp [(List.cons.inj same).1])
      rw [List.tail_cons] at goesOn
      have unnamed : alphabetic c = false := plain
      simp [classify_cons rest other, ascii, goesOn, underscore, unnamed, semicolon]

/-- The kind of what a lexeme stands for can be told from its first characters. -/
theorem kind_eq_classify (formed : lexeme.Formed) (stands : lexeme.kind? = some kind) :
    kind = classify alphabetic lexeme.text := by
  have number := kind?_number formed
  obtain ⟨shape, text⟩ := lexeme
  have marked {mark : Char} (first : text.head? = some mark) : ∃ rest, text = mark :: rest :=
    List.head?_eq_some_iff.1 first
  cases shape with
  | comment | blank => cases stands
  | string | rawString | rune =>
    obtain ⟨rest, rfl⟩ := marked formed
    cases stands
    rfl
  | number =>
    rw [number rfl] at stands
    obtain ⟨c, rest, rfl, starts⟩ := formed
    exact (Option.some.inj stands).symm.trans (classify_number alphabet starts).symm
  | name =>
    obtain ⟨c, rest, rfl, starts, -⟩ := formed
    rw [classify_name alphabet starts]
    simpa [kind?] using (Option.some.inj stands).symm
  | operator =>
    rw [classify_operator alphabet formed]
    exact (Option.some.inj stands).symm

end

/-- Nothing is kept as an operator but the listed operators and some numbers. -/
theorem kind_eq_operator_iff (formed : lexeme.Formed) (stands : lexeme.kind? = some kind) :
    kind = .operator ↔ String.ofList lexeme.text ∈ operators ∧ String.ofList lexeme.text ≠ ";" ∨
      isForeignNumber lexeme.text = true := by
  have plain := isForeignNumber_of_shape formed
  have number := kind?_number formed
  obtain ⟨shape, text⟩ := lexeme
  cases shape with
  | comment | blank => cases stands
  | string | rawString | rune =>
    cases stands
    have unlisted := (not_listed_of_mark formed (by decide)).1
    simp [plain, unlisted]
  | number =>
    rw [number rfl] at stands
    obtain ⟨c, rest, same, starts⟩ := formed
    have unlisted : String.ofList text ∉ operators := by
      rw [show text = c :: rest from same]
      exact (not_listed_of_startsNumber starts).1
    cases stands
    cases isForeignNumber text <;> simp [unlisted]
  | name =>
    obtain ⟨c, rest, same, starts, -⟩ := formed
    have unlisted : String.ofList text ∉ operators := by
      rw [show text = c :: rest from same]
      exact not_operator_of_startsName rfl starts
    cases stands
    split <;> simp [plain, unlisted]
  | operator =>
    have listed : String.ofList text ∈ operators := formed
    have foreign : isForeignNumber text = false := plain (by simp)
    cases stands
    by_cases semicolon : text = [';']
    · subst semicolon
      simp [foreign]
    · simp [foreign, semicolon, ofList_eq_semicolon_iff, listed]

end

section
variable {text rest : List Char} {lexeme : Lexeme} {rule : Rule} {length : Nat}
  {parts : List (Rule × List Char)}

theorem shape?_of_next? (read : next? text = some (lexeme, rest))
    (found : Rule.first? text = some (rule, length)) : rule.shape? = some lexeme.shape := by
  obtain ⟨⟨shape, split⟩, cut, same⟩ := Option.map_eq_some_iff.1 read
  have known := Rule.first?_eq text
  rw [cut] at known
  cases same
  obtain ⟨other, matched, shape⟩ := known
  rw [found] at matched
  cases matched
  exact shape

/-- A text that is matched up to its end falls into lexemes of the same shapes. -/
theorem Matches.all (matched : Matches text parts) : ∃ lexemes, Lexeme.all text = (lexemes, []) ∧
    List.Forall₂ (fun part lexeme => part.1.shape? = some lexeme.shape ∧ part.2 = lexeme.text) parts lexemes := by
  induction matched with
  | nil => exact ⟨[], all_nil, .nil⟩
  | @cons text rule length later found other _ ih =>
    obtain ⟨shape, read⟩ := next?_of_first? found other
    have known := shape?_of_next? read found
    obtain ⟨lexemes, whole, same⟩ := ih
    exact ⟨⟨shape, text.take length⟩ :: lexemes, by rw [all_of_next? read, whole], .cons ⟨known, rfl⟩ same⟩

theorem exists_matches (complete : (Lexeme.all text).2 = []) : ∃ parts, Matches text parts := by
  fun_induction Lexeme.all text with
  | case1 text none =>
    obtain rfl : text = [] := complete
    exact ⟨[], .nil⟩
  | case2 text lexeme rest found _ later stuck same ih =>
    rw [same] at ih
    obtain ⟨parts, matched⟩ := ih complete
    obtain ⟨rule, first, other⟩ := first?_of_next? found
    obtain ⟨rfl, -⟩ := next?_eq_some found
    exact ⟨_, .cons first other (by rwa [List.drop_left])⟩

/-- What is kept of a part: what its alternative promises, but an operator where a number starts with a
digit other than those of ASCII -/
def keptOf? (part : Rule × List Char) : Option (Token.Kind × String) :=
  (part.1.kind? (String.ofList part.2)).map fun kind =>
    (if isForeignNumber part.2 then .operator else kind, String.ofList part.2)

theorem filterMap_keptOf? {lexemes : List Lexeme} (formed : ∀ lexeme ∈ lexemes, lexeme.Formed)
    (same : List.Forall₂ (fun part lexeme => part.1.shape? = some lexeme.shape ∧ part.2 = lexeme.text)
      parts lexemes) : parts.filterMap keptOf? = lexemes.filterMap face? := by
  induction same with
  | nil => rfl
  | @cons part lexeme parts lexemes own _ ih =>
    have kept : keptOf? part = lexeme.face? := by
      rw [keptOf?, face?, kind?_eq (formed lexeme List.mem_cons_self) own.1, own.2, Option.map_map]
      rfl
    rw [List.filterMap_cons, List.filterMap_cons, kept,
      ih fun other member => formed other (List.mem_cons_of_mem _ member)]

end

end Lexeme

/-- Every token that is kept from a text is of the kind that the alternative promises which matched it,
but for numbers that do not start with a digit of ASCII, which are kept as operators. Its kind can be told
from its first characters, whatever else is alphabetic. -/
theorem Tokens.kinds_of_ofText {text : String} {tokens : Tokens} (read : ofText text = .ok tokens)
    {alphabetic : Char → Bool} (alphabet : Lexeme.IsAlphabet alphabetic) :
    (∃ parts, Lexeme.Matches text.toList parts) ∧
    (∀ parts, Lexeme.Matches text.toList parts →
      tokens.spelled.map Token.face = parts.filterMap Lexeme.keptOf?) ∧
    ∀ token ∈ tokens.spelled, token.kind = Lexeme.classify alphabetic token.text.toList ∧
      (token.kind = .operator ↔ token.text ∈ Lexeme.operators ∧ token.text ≠ ";" ∨
        Lexeme.isForeignNumber token.text.toList = true) := by
  obtain ⟨lexemes, whole, -⟩ := ofText_eq_ok_iff.1 read
  have formed : ∀ lexeme ∈ lexemes, lexeme.Formed := by
    have all := @Lexeme.formed_of_all text.toList
    rwa [whole] at all
  have faces : tokens.spelled.map Token.face = lexemes.filterMap Lexeme.face? := by
    have spelled := (spelledFaces_of_all whole).2
    rwa [spelledFaces, read] at spelled
  refine ⟨Lexeme.exists_matches (by rw [whole]), ?_, ?_⟩
  · intro parts matched
    obtain ⟨others, again, same⟩ := matched.all
    obtain rfl : lexemes = others := congrArg Prod.fst (whole.symm.trans again)
    rw [faces, Lexeme.filterMap_keptOf? formed same]
  · intro token member
    have face : token.face ∈ lexemes.filterMap Lexeme.face? := faces ▸ List.mem_map_of_mem member
    obtain ⟨lexeme, listed, own⟩ := List.mem_filterMap.1 face
    obtain ⟨kind, stands, own⟩ := Option.map_eq_some_iff.1 own
    obtain ⟨rfl, spelling⟩ := Prod.mk.inj own
    have characters : lexeme.text = token.text.toList := by rw [← spelling, String.toList_ofList]
    have classified := Lexeme.kind_eq_classify alphabet (formed lexeme listed) stands
    have operator := Lexeme.kind_eq_operator_iff (formed lexeme listed) stands
    rw [characters] at classified operator
    exact ⟨classified, by simpa using operator⟩

theorem Lexeme.isAlphabet_isLetter : IsAlphabet Unicode.isLetter where
  letter _ letter := letter
  digit c digit := by
    rw [Bool.eq_false_iff]
    intro letter
    simp [Unicode.isDigit_of_isLetter letter] at digit
  operator := by decide

/-- A sum of two numbers of which one is kept as an operator -/
theorem Tokens.kinds_of_ofText_sum : ∃ tokens, ofText ".5+٣٣" = .ok tokens ∧
    tokens.spelled.map Token.face = [(.number, ".5"), (.operator, "+"), (.operator, "٣٣")] ∧
    ∀ token ∈ tokens.spelled, token.kind = Lexeme.classify Unicode.isLetter token.text.toList := by
  have whole : Lexeme.all ".5+٣٣".toList = ([⟨.number, ['.', '5']⟩, ⟨.operator, ['+']⟩, ⟨.number, ['٣', '٣']⟩],
      []) := by decide +kernel
  have sum : Lexeme.Rule.first? ['.', '5', '+', '٣', '٣'] = some (.fraction, 2) ∧
      Lexeme.Rule.first? ['+', '٣', '٣'] = some (.shortOperator, 1) ∧
      Lexeme.Rule.first? ['٣', '٣'] = some (.number, 2) := by decide +kernel
  have matched : Lexeme.Matches ".5+٣٣".toList
      [(.fraction, ['.', '5']), (.shortOperator, ['+']), (.number, ['٣', '٣'])] :=
    .cons sum.1 (by decide) (.cons sum.2.1 (by decide) (.cons sum.2.2 (by decide) .nil))
  have read := ofText_eq_ok_iff.2 ⟨_, whole, rfl⟩
  obtain ⟨-, kept, classified⟩ := kinds_of_ofText read Lexeme.isAlphabet_isLetter
  exact ⟨_, read, (kept _ matched).trans (by decide +kernel), fun token member => (classified token member).1⟩

/-- A digit that is matched as a number is kept as an operator. -/
theorem Tokens.ofText_of_digit : ∃ tokens, ofText "٣" = .ok tokens ∧
    Lexeme.Matches "٣".toList [(.number, ['٣'])] ∧ tokens.spelled = [⟨.operator, "٣", ⟨1, 1⟩⟩] := by
  have whole : Lexeme.all "٣".toList = ([⟨.number, ['٣']⟩], []) := by decide +kernel
  have read := ofText_eq_ok_iff.2 ⟨_, whole, rfl⟩
  have found : Lexeme.Rule.first? ['٣'] = some (.number, 1) := by decide +kernel
  exact ⟨_, read, .cons found (by decide) .nil, by decide +kernel⟩

end GoDto
