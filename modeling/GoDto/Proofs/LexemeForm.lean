import GoDto.Proofs.CharacterClasses
import GoDto.Proofs.ProperTokens
import GoDto.Token.Layout

/-!
What lexemes look like. Each shape is known by how the text starts, and no shape but operators and
names is spelled like an operator or a keyword. So the tokens of a text are of the proper form.
-/

namespace GoDto

open Unicode

namespace Lexeme

/-- A letter or an underscore, and then also digits -/
def IsWord (text : List Char) : Prop :=
  ∃ c rest, text = c :: rest ∧ startsName c ∧ ∀ d ∈ rest, isNamePart d

theorem isWord_cons {c : Char} {rest : List Char} :
    IsWord (c :: rest) ↔ startsName c ∧ ∀ d ∈ rest, isNamePart d := by
  constructor
  · rintro ⟨c, rest, ⟨⟩, word⟩
    exact word
  · exact fun word => ⟨c, rest, rfl, word⟩

instance (text : List Char) : Decidable (IsWord text) :=
  match text with
  | [] => isFalse (by rintro ⟨c, rest, ⟨⟩, -⟩)
  | c :: rest => decidable_of_iff (startsName c ∧ rest.all isNamePart) (by
    rw [isWord_cons, List.all_eq_true])

/-- How the text of a lexeme starts -/
def Formed (lexeme : Lexeme) : Prop :=
  match lexeme.shape with
  | .comment => lexeme.text.head? = some '/'
  | .blank => lexeme.text ≠ [] ∧ ∀ c ∈ lexeme.text, isBlank c
  | .string => lexeme.text.head? = some '"'
  | .rawString => lexeme.text.head? = some '\x60'
  | .rune => lexeme.text.head? = some '\''
  | .number => ∃ c rest, lexeme.text = c :: rest ∧ startsNumber c rest
  | .name => IsWord lexeme.text
  | .operator => String.ofList lexeme.text ∈ operators

theorem mem_front_run {test : Char → Bool} {text : List Char} {c : Char}
    (member : c ∈ (Split.run test text).front) : test c = true :=
  List.all_eq_true.1 List.all_takeWhile c member

theorem head_numberRest {c : Char} {rest : List Char} (part : isNumberPart c = true) :
    (numberRest (c :: rest)).front.head? = some c := by
  cases rest with
  | nil => simp [numberRest, part]
  | cons next rest =>
    unfold numberRest
    split
    · rfl
    · rfl

theorem isNumberPart_of_isDigit {c : Char} (digit : isDigit c = true) : isNumberPart c = true := by
  simp [isNumberPart, isWord, digit]

/-- What shows that a number starts here is part of the number. -/
theorem startsNumber_front {c : Char} {rest : List Char} (starts : startsNumber c rest = true) :
    startsNumber c (numberRest rest).front = true := by
  simp only [startsNumber, Bool.or_eq_true, Bool.and_eq_true] at starts ⊢
  rcases starts with digit | ⟨dot, digit⟩
  · exact .inl digit
  · refine .inr ⟨dot, ?_⟩
    cases rest with
    | nil => simp at digit
    | cons d rest =>
      have part : isNumberPart d = true := isNumberPart_of_isDigit (by simpa using digit)
      rw [head_numberRest part]
      exact digit

theorem mem_operators_of_nextOperator? {text : List Char} {split : Split}
    (found : nextOperator? text = some split) : String.ofList split.front ∈ operators := by
  obtain ⟨spelling, listed, matched⟩ := List.exists_of_findSome?_eq_some found
  obtain ⟨rest, -, rfl⟩ := Option.map_eq_some_iff.1 matched
  simpa using listed

theorem formed_of_cut? {text : List Char} {shape : Shape} {split : Split}
    (found : cut? text = some (shape, split)) : Formed ⟨shape, split.front⟩ := by
  unfold cut? at found
  split at found
  · cases found
  · cases found
    rfl
  · obtain ⟨inner, -, same⟩ := Option.map_eq_some_iff.1 found
    cases same
    rfl
  · obtain ⟨inner, -, same⟩ := Option.map_eq_some_iff.1 found
    cases same
    rfl
  · obtain ⟨inner, -, same⟩ := Option.map_eq_some_iff.1 found
    cases same
    rfl
  · obtain ⟨inner, -, same⟩ := Option.map_eq_some_iff.1 found
    cases same
    rfl
  · split at found
    · next starts =>
      cases found
      exact ⟨_, _, rfl, startsNumber_front starts⟩
    · split at found
      · next starts =>
        cases found
        exact ⟨_, _, rfl, starts, fun d member => mem_front_run member⟩
      · split at found
        · next blank =>
          cases found
          refine ⟨List.cons_ne_nil _ _, fun d member => ?_⟩
          rcases List.mem_cons.1 member with rfl | inside
          · exact blank
          · exact mem_front_run inside
        · obtain ⟨inner, cut, same⟩ := Option.map_eq_some_iff.1 found
          cases same
          exact mem_operators_of_nextOperator? cut

theorem formed_of_next? {text rest : List Char} {lexeme : Lexeme}
    (found : next? text = some (lexeme, rest)) : lexeme.Formed := by
  obtain ⟨⟨shape, split⟩, cut, same⟩ := Option.map_eq_some_iff.1 found
  cases same
  exact formed_of_cut? cut

theorem formed_of_all {text : List Char} : ∀ lexeme ∈ (all text).1, lexeme.Formed := by
  fun_induction all text with
  | case1 => simp
  | case2 text lexeme rest found _ later stuck same ih =>
    intro other member
    rcases List.mem_cons.1 member with rfl | inside
    · exact formed_of_next? found
    · exact ih other (by simpa [same] using inside)

/-- A text is not in a list if its first character starts nothing there. -/
theorem not_mem_of_head {list : List String} {text : List Char} {c : Char}
    (first : text.head? = some c) (differs : ∀ spelling ∈ list, spelling.toList.head? ≠ some c) :
    String.ofList text ∉ list := by
  intro member
  apply differs _ member
  rw [String.toList_ofList, first]

theorem not_operator_of_startsName {text : List Char} {c : Char} (first : text.head? = some c)
    (starts : startsName c = true) : String.ofList text ∉ operators := by
  have heads : ∀ spelling ∈ operators, spelling.toList.head?.all (!startsName ·) = true := by
    decide
  apply not_mem_of_head first
  intro spelling listed same
  simpa [same, starts] using heads spelling listed

theorem not_listed_of_startsNumber {c : Char} {rest : List Char}
    (starts : startsNumber c rest = true) :
    String.ofList (c :: rest) ∉ operators ∧ String.ofList (c :: rest) ∉ Token.keywords := by
  have numberless : ∀ spelling ∈ operators ++ Token.keywords,
      (match spelling.toList with | [] => false | c :: rest => startsNumber c rest) = false := by
    decide
  have other : String.ofList (c :: rest) ∉ operators ++ Token.keywords := by
    intro listed
    simpa [starts] using numberless _ listed
  simpa using other

/-- Literals start like no operator and no keyword. -/
theorem not_listed_of_mark {text : List Char} {mark : Char} (first : text.head? = some mark)
    (quotes : mark ∈ ['"', '\x60', '\'']) :
    String.ofList text ∉ operators ∧ String.ofList text ∉ Token.keywords := by
  have differs : ∀ spelling ∈ operators ++ Token.keywords,
      spelling.toList.head? ∉ ['"', '\x60', '\''].map some := by
    decide
  have other := not_mem_of_head first fun spelling listed same =>
    differs spelling listed (same ▸ List.mem_map_of_mem quotes)
  simpa using other

variable {lexeme : Lexeme} {kind : Token.Kind}

/-- What is spelled like no operator and no keyword may be of any kind but two. -/
theorem inner_of_unlisted {text : String} (operator : text ∉ operators)
    (keyword : text ∉ Token.keywords) (other : kind ∉ [.semicolon, .endOfFile])
    (position : Position) : Token.Inner ⟨kind, text, position⟩ := by
  simp only [List.mem_cons, List.not_mem_nil, or_false, not_or] at other
  exact ⟨⟨fun listed => absurd listed operator, fun listed => absurd listed keyword,
    fun same => absurd same other.1, fun same => absurd same other.2⟩, other.2⟩

/-- The token that a lexeme stands for is of the proper form, whatever its place. -/
theorem Formed.inner (formed : lexeme.Formed) (stands : lexeme.kind? = some kind)
    (position : Position) : Token.Inner ⟨kind, String.ofList lexeme.text, position⟩ := by
  obtain ⟨shape, text⟩ := lexeme
  have literal : ∀ {kind : Token.Kind} {mark : Char}, text.head? = some mark →
      mark ∈ ['"', '\x60', '\''] → kind ∉ [.semicolon, .endOfFile] →
      Token.Inner ⟨kind, String.ofList text, position⟩ := by
    intro kind mark first quotes other
    obtain ⟨operator, keyword⟩ := not_listed_of_mark first quotes
    exact inner_of_unlisted operator keyword other position
  cases shape with
  | comment => cases stands
  | blank => cases stands
  | string =>
    cases stands
    exact literal formed (by decide) (by decide)
  | rawString =>
    cases stands
    exact literal formed (by decide) (by decide)
  | rune =>
    cases stands
    exact literal formed (by decide) (by decide)
  | number =>
    obtain ⟨c, rest, rfl, starts⟩ := formed
    obtain ⟨operator, keyword⟩ := not_listed_of_startsNumber starts
    refine inner_of_unlisted operator keyword ?_ position
    simp only [kind?, Option.some.injEq] at stands
    rw [← stands]
    generalize Option.any Char.isDigit _ = ascii
    cases ascii <;> decide
  | name =>
    obtain ⟨c, rest, rfl, starts, -⟩ := formed
    have operator := @not_operator_of_startsName (c :: rest) c rfl starts
    simp only [kind?, Option.some.injEq, List.contains_eq_mem, decide_eq_true_eq] at stands
    split at stands
    · next keyword =>
      subst stands
      exact ⟨⟨fun listed => absurd listed operator, fun _ => rfl, by simp, by simp⟩, by simp⟩
    · next keyword =>
      subst stands
      exact inner_of_unlisted operator keyword (by decide) position
  | operator =>
    have listed : String.ofList text ∈ operators := formed
    have apart : ∀ spelling ∈ operators, spelling ∉ Token.keywords := by decide
    simp only [kind?, Option.some.injEq] at stands
    split at stands
    · next same =>
      subst stands same
      have keyword : ";" ∉ Token.keywords := by decide
      exact ⟨⟨fun _ other => absurd rfl other, fun listed => absurd listed keyword,
        fun _ => .inl rfl, by simp⟩, by simp⟩
    · next other =>
      subst stands
      exact ⟨⟨fun _ _ => rfl, fun keyword => absurd keyword (apart _ listed), by simp, by simp⟩,
        by simp⟩

theorem inner_lineEnd (position : Position) : (Token.lineEnd position).Inner :=
  have operator : "\n" ∉ operators := by decide
  have keyword : "\n" ∉ Token.keywords := by decide
  ⟨⟨fun listed => absurd listed operator, fun listed => absurd listed keyword, fun _ => .inr rfl,
    by simp [Token.lineEnd]⟩, by simp [Token.lineEnd]⟩

/-- A token is at the place of a line break, or it stands for a lexeme. -/
theorem mem_layOut {lexemes : List Lexeme} {ends : Bool} {position : Position} {token : Token}
    (member : token ∈ layOut ends position lexemes) : (∃ place, token = .lineEnd place) ∨
      ∃ lexeme ∈ lexemes, lexeme.kind? = some token.kind ∧ token.text = String.ofList lexeme.text := by
  induction lexemes generalizing ends position with
  | nil =>
    unfold layOut at member
    split at member
    · exact .inl ⟨position, List.mem_singleton.1 member⟩
    · cases member
  | cons lexeme lexemes ih =>
    have later {ends : Bool} {position : Position} (inside : token ∈ layOut ends position lexemes) :
        (∃ place, token = .lineEnd place) ∨ ∃ other ∈ lexeme :: lexemes,
          other.kind? = some token.kind ∧ token.text = String.ofList other.text := by
      rcases ih inside with line | ⟨other, member, same⟩
      · exact .inl line
      · exact .inr ⟨other, List.mem_cons_of_mem _ member, same⟩
    unfold layOut at member
    cases stands : lexeme.kind? with
    | none =>
      simp only [stands] at member
      split at member
      · rcases List.mem_cons.1 member with rfl | inside
        · exact .inl ⟨position, rfl⟩
        · exact later inside
      · exact later member
    | some kind =>
      simp only [stands] at member
      rcases List.mem_cons.1 member with rfl | inside
      · exact .inr ⟨lexeme, List.mem_cons_self, stands, rfl⟩
      · exact later inside

theorem inner_layOut {lexemes : List Lexeme} (formed : ∀ lexeme ∈ lexemes, lexeme.Formed)
    (ends : Bool) (position : Position) : ∀ token ∈ layOut ends position lexemes, token.Inner := by
  intro token member
  rcases mem_layOut member with ⟨place, rfl⟩ | ⟨lexeme, listed, stands, text⟩
  · exact inner_lineEnd place
  · have inner := (formed lexeme listed).inner stands token.position
    rwa [← text] at inner

end Lexeme

namespace Tokens

variable {text : String} {tokens : Tokens}

theorem formed_of_ofText (read : ofText text = .ok tokens) : ∃ lexemes : List Lexeme,
    (∀ lexeme ∈ lexemes, lexeme.Formed) ∧ tokens.body = Lexeme.layOut false .start lexemes ∧
      tokens.final = .fileEnd (Position.start.after text.toList) := by
  unfold ofText at read
  split at read
  · next lexemes found =>
    cases read
    refine ⟨lexemes, fun lexeme listed => ?_, rfl, rfl⟩
    apply @Lexeme.formed_of_all text.toList
    rwa [found]
  · cases read

/-- Whatever falls into tokens falls into tokens of the proper form. -/
theorem proper_of_ofText (read : ofText text = .ok tokens) : tokens.Proper := by
  obtain ⟨lexemes, formed, body, final⟩ := formed_of_ofText read
  constructor
  · rw [body]
    exact Lexeme.inner_layOut formed _ _
  · rw [final]
    exact ⟨rfl, rfl⟩

end Tokens

end GoDto
