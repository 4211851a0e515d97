import GoDto.Proofs.Offsets
import GoDto.Proofs.Respacing

/-!
Tokens and the text that they were read from. Every token is spelled in the text at its own place, and
what is written before, between and behind the tokens are blanks and comments only. So nothing that
matters is dropped, and places are exact.
-/

namespace GoDto

open Unicode

/-- A stretch of a text, from one byte offset to another -/
structure Span where
  start : Nat
  stop : Nat

/-- Blank characters and whole comments, in front of more text. A comment on one line goes on up to
the line break or the end of the text, any other up to the first mark that closes it. -/
inductive Spacing (behind : List Char) : List Char → Prop
  | none : Spacing behind []
  | blank {c : Char} {rest : List Char} : isBlank c = true → Spacing behind rest →
      Spacing behind (c :: rest)
  | line {body rest : List Char} : '\n' ∉ body → (∀ c ∈ (rest ++ behind).head?, c = '\n') →
      Spacing behind rest → Spacing behind ('/' :: '/' :: (body ++ rest))
  | block {body rest : List Char} : ¬['*', '/'] <:+: body ++ ['*'] → Spacing behind rest →
      Spacing behind ('/' :: '*' :: (body ++ '*' :: '/' :: rest))

/-- One piece of spacing, a run of white space as far as it goes or a whole comment -/
inductive Filler (behind : List Char) : List Char → Prop where
  | blanks {run : List Char} : run ≠ [] → (∀ c ∈ run, isBlank c = true) →
      (∀ c ∈ behind.head?, isBlank c = false) → Filler behind run
  | line {body : List Char} : '\n' ∉ body → (∀ c ∈ behind.head?, c = '\n') →
      Filler behind ('/' :: '/' :: body)
  | block {body : List Char} : ¬['*', '/'] <:+: body ++ ['*'] →
      Filler behind ('/' :: '*' :: (body ++ ['*', '/']))

namespace Span

/-- Whether the stretch of `text` holds the characters `part`, and `behind` follows it. -/
def Holds (span : Span) (text : String) (part behind : List Char) : Prop :=
  ∃ front, text.toList = front ++ part ++ behind ∧
    span.start = byteSize front ∧
    span.stop = byteSize (front ++ part)

/-- Whether nothing but blanks and comments is written there -/
def Spaced (span : Span) (text : String) : Prop :=
  ∃ part behind, span.Holds text part behind ∧ Spacing behind part

/-- What is left of a stretch before, between and behind others -/
def gaps (start stop : Nat) : List Span → List Span
  | [] => [⟨start, stop⟩]
  | span :: rest => ⟨start, span.start⟩ :: gaps span.stop stop rest

end Span

namespace Token

/-- Whether the token is spelled in the text. The end of the file is not, nor is a line break that
ends a statement. -/
def isSpelled (token : Token) : Bool :=
  token.kind != .endOfFile && !(token.kind == .semicolon && token.text == "\n")

/-- The token starts at its own place and is spelled there. -/
structure Fills (text : String) (token : Token) (span : Span) : Prop where
  place : token.position.Denotes text span.start
  spelled : ∃ behind, span.Holds text token.text.toList behind
  nonempty : span.start < span.stop

end Token

/-- Whether tokens fill stretches of a text from `start` on one after another, so that only blanks and
comments are left -/
structure Covered (text : String) (start : Nat) (tokens : List Token) (spans : List Span) : Prop where
  filled : List.Forall₂ (Token.Fills text) tokens spans
  ordered : spans.Pairwise fun span later => span.stop ≤ later.start
  within : ∀ span ∈ spans, start ≤ span.start
  spaced : ∀ gap ∈ Span.gaps start text.utf8ByteSize spans, gap.Spaced text

/-- A token whose place is that behind `front` fills what it is spelled like there. -/
theorem Token.fills_of_append {text : String} {front rest : List Char} {token : Token}
    (whole : text.toList = front ++ (token.text.toList ++ rest))
    (place : token.position = Position.start.after front) (nonempty : token.text.toList ≠ []) :
    token.Fills text ⟨byteSize front, byteSize (front ++ token.text.toList)⟩ := by
  refine ⟨?_, ⟨rest, front, ?_, rfl, rfl⟩, ?_⟩
  · rw [place]
    exact Position.denotes_of_append whole
  · rw [whole, List.append_assoc]
  · rw [byteSize_append]
    exact Nat.lt_add_of_pos_right (byteSize_pos nonempty)

theorem not_of_head_dropWhile {α : Type} {test : α → Bool} {list : List α} {first : α}
    (head : first ∈ (list.dropWhile test).head?) : test first = false := by
  have stops := List.head?_dropWhile_not test list
  rwa [Option.mem_def.1 head] at stops

theorem Spacing.blanks {behind blanks part : List Char} (blank : ∀ c ∈ blanks, isBlank c = true)
    (spacing : Spacing behind part) : Spacing behind (blanks ++ part) := by
  induction blanks with
  | nil => exact spacing
  | cons c blanks ih =>
    exact .blank (blank c List.mem_cons_self)
      (ih fun d member => blank d (List.mem_cons_of_mem _ member))

theorem Filler.spacing {behind part piece : List Char} (filler : Filler (part ++ behind) piece)
    (spacing : Spacing behind part) : Spacing behind (piece ++ part) := by
  cases filler with
  | blanks _ blank _ => exact .blanks blank spacing
  | line unbroken ends => exact .line unbroken ends spacing
  | block first =>
    simp only [List.cons_append, List.append_assoc, List.nil_append]
    exact .block first spacing

namespace Lexeme

/-- A comment that was read on to its end goes up to the first mark that closes it. -/
theorem front_closeComment {text : List Char} {split : Split}
    (found : closeComment text = some split) :
    ∃ body, split.front = body ++ ['*', '/'] ∧ ¬['*', '/'] <:+: body ++ ['*'] := by
  fun_induction closeComment text generalizing split with
  | case1 => cases found
  | case2 rest =>
    cases found
    exact ⟨[], rfl, by decide⟩
  | case3 c rest other ih =>
    obtain ⟨inner, closed, rfl⟩ := Option.map_eq_some_iff.1 found
    obtain ⟨body, front, first⟩ := ih closed
    refine ⟨c :: body, by simp [front], fun inside => ?_⟩
    rw [List.cons_append, List.infix_cons_iff] at inside
    rcases inside with before | later
    · obtain ⟨rfl, slash⟩ := List.cons_prefix_cons.1 before
      obtain ⟨more, body⟩ : ∃ more, body = '/' :: more := by
        cases body with
        | nil => simp at slash
        | cons d more =>
          obtain ⟨rfl, -⟩ := List.cons_prefix_cons.1 slash
          exact ⟨more, rfl⟩
      have whole := whole_closeComment closed
      rw [Split.whole, front, body] at whole
      exact other _ rfl whole.symm
    · exact first later

/-- The two forms of a comment -/
theorem comment_of_cut? {text : List Char} {split : Split}
    (found : cut? text = some (.comment, split)) :
    (∃ body, split.front = '/' :: '/' :: body ∧ '\n' ∉ body ∧ ∀ c ∈ split.rest.head?, c = '\n') ∨
      ∃ body, split.front = '/' :: '*' :: (body ++ ['*', '/']) ∧ ¬['*', '/'] <:+: body ++ ['*'] := by
  unfold cut? at found
  split at found
  · cases found
  · next rest =>
    cases found
    refine .inl ⟨_, rfl, fun member => ?_, fun c first => ?_⟩
    · simpa using mem_front_run member
    · have stops := not_of_head_dropWhile first
      simpa using stops
  · obtain ⟨inner, closed, same⟩ := Option.map_eq_some_iff.1 found
    cases same
    obtain ⟨body, front, first⟩ := front_closeComment closed
    exact .inr ⟨body, by simp [front], first⟩
  · obtain ⟨inner, closed, same⟩ := Option.map_eq_some_iff.1 found
    cases same
  · obtain ⟨inner, closed, same⟩ := Option.map_eq_some_iff.1 found
    cases same
  · obtain ⟨inner, closed, same⟩ := Option.map_eq_some_iff.1 found
    cases same
  · repeat' split at found
    · cases found
    · cases found
    · cases found
    · obtain ⟨inner, closed, same⟩ := Option.map_eq_some_iff.1 found
      cases same

/-- What stands for no token is a run of white space or a comment. -/
theorem filler_of_next? {text rest : List Char} {lexeme : Lexeme}
    (found : next? text = some (lexeme, rest)) (stands : lexeme.kind? = none) :
    Filler rest lexeme.text := by
  have formed := formed_of_next? found
  obtain ⟨⟨shape, split⟩, cut, same⟩ := Option.map_eq_some_iff.1 found
  cases same
  cases shape with
  | comment =>
    rcases comment_of_cut? cut with ⟨body, front, unbroken, ends⟩ | ⟨body, front, first⟩
    · simp only [front]
      exact .line unbroken ends
    · simp only [front]
      exact .block first
  | blank =>
    obtain ⟨c, more, -, -, run⟩ := run_of_cut? cut
    refine .blanks formed.1 formed.2 fun d first => ?_
    rw [← run] at first
    exact not_of_head_dropWhile first
  | _ => cases stands

/-- What stands for no token is spacing in front of spacing. -/
theorem spacing_of_next? {text rest part behind : List Char} {lexeme : Lexeme}
    (found : next? text = some (lexeme, rest)) (stands : lexeme.kind? = none)
    (whole : rest = part ++ behind) (spacing : Spacing behind part) :
    Spacing behind (lexeme.text ++ part) := by
  have filler := filler_of_next? found stands
  rw [whole] at filler
  exact filler.spacing spacing

theorem text_of_semicolon {lexeme : Lexeme} (stands : lexeme.kind? = some .semicolon) :
    lexeme.text = [';'] := by
  obtain ⟨shape, text⟩ := lexeme
  cases shape with
  | operator =>
    by_contra other
    simp [kind?, other] at stands
  | name =>
    simp only [kind?, Option.some.injEq] at stands
    split at stands <;> cases stands
  | number =>
    simp only [kind?, Option.some.injEq] at stands
    generalize Option.any Char.isDigit _ = ascii at stands
    cases ascii <;> cases stands
  | _ => cases stands

theorem isSpelled_of_kind? {lexeme : Lexeme} {kind : Token.Kind} (formed : lexeme.Formed)
    (stands : lexeme.kind? = some kind) (position : Position) :
    Token.isSpelled ⟨kind, String.ofList lexeme.text, position⟩ = true := by
  have inside : kind ≠ .endOfFile := (formed.inner stands position).inside
  simp only [Token.isSpelled, Bool.and_eq_true, bne_iff_ne, Bool.not_eq_true', Bool.and_eq_false_imp,
    beq_iff_eq, beq_eq_false_iff_ne]
  refine ⟨inside, fun semicolon => ?_⟩
  subst semicolon
  rw [text_of_semicolon stands]
  decide

end Lexeme

namespace Covered

variable {text : String} {front rest : List Char} {tokens : List Token} {spans : List Span}

theorem nil (whole : text.toList = front) : Covered text (byteSize front) [] [] := by
  refine ⟨.nil, .nil, by simp, fun gap member => ?_⟩
  rw [Span.gaps, List.mem_singleton] at member
  subst member
  refine ⟨[], [], ⟨front, by simpa using whole, rfl, ?_⟩, .none⟩
  rw [List.append_nil, ← whole, byteSize_toList]

/-- Spacing in front of what is covered -/
theorem spacing {dropped : List Char} (whole : text.toList = front ++ (dropped ++ rest))
    (spaces : ∀ part behind, rest = part ++ behind → Spacing behind part →
      Spacing behind (dropped ++ part))
    (covered : Covered text (byteSize (front ++ dropped)) tokens spans) :
    Covered text (byteSize front) tokens spans := by
  obtain ⟨filled, ordered, within, spaced⟩ := covered
  have earlier : byteSize front ≤ byteSize (front ++ dropped) := by
    rw [byteSize_append]
    exact Nat.le_add_right _ _
  have longer {stop : Nat} (gap : Span.Spaced ⟨byteSize (front ++ dropped), stop⟩ text) :
      Span.Spaced ⟨byteSize front, stop⟩ text := by
    obtain ⟨part, behind, ⟨other, inside, start, stop⟩, spacing⟩ := gap
    obtain ⟨rfl, rfl⟩ : front ++ dropped = other ∧ rest = part ++ behind := by
      apply eq_of_byteSize _ start
      rw [List.append_assoc, ← whole, inside, List.append_assoc]
    refine ⟨dropped ++ part, behind, ⟨front, ?_, rfl, ?_⟩, spaces part behind rfl spacing⟩
    · rw [whole, List.append_assoc, List.append_assoc]
    · rw [← List.append_assoc]
      exact stop
  refine ⟨filled, ordered, fun span member => Nat.le_trans earlier (within span member), ?_⟩
  cases spans with
  | nil => simpa [Span.gaps] using longer (spaced _ List.mem_cons_self)
  | cons span spans =>
    intro gap member
    rcases List.mem_cons.1 member with rfl | later
    · exact longer (spaced _ List.mem_cons_self)
    · exact spaced gap (List.mem_cons_of_mem _ later)

/-- A token in front of what is covered -/
theorem token {token : Token} (whole : text.toList = front ++ (token.text.toList ++ rest))
    (place : token.position = Position.start.after front) (nonempty : token.text.toList ≠ [])
    (covered : Covered text (byteSize (front ++ token.text.toList)) tokens spans) :
    Covered text (byteSize front) (token :: tokens)
      (⟨byteSize front, byteSize (front ++ token.text.toList)⟩ :: spans) := by
  obtain ⟨filled, ordered, within, spaced⟩ := covered
  have own := Token.fills_of_append whole place nonempty
  have longer := own.nonempty
  refine ⟨.cons own filled, .cons within ordered, ?_, ?_⟩
  · intro span member
    rcases List.mem_cons.1 member with rfl | later
    · exact Nat.le_refl _
    · exact Nat.le_trans (Nat.le_of_lt longer) (within span later)
  · intro gap member
    rcases List.mem_cons.1 member with rfl | later
    · refine ⟨[], token.text.toList ++ rest, ⟨front, ?_, rfl, ?_⟩, .none⟩
      · rw [whole, List.append_nil]
      · rw [List.append_nil]
    · exact spaced gap later

end Covered

namespace Lexeme

/-- Lexemes that reach the end of a text leave tokens that cover what they were read from. -/
theorem covered_layOut {text : String} {front rest : List Char} {lexemes : List Lexeme}
    (whole : text.toList = front ++ rest) (read : all rest = (lexemes, [])) (ends : Bool) :
    ∃ spans, Covered text (byteSize front)
      ((layOut ends (Position.start.after front) lexemes).filter Token.isSpelled) spans := by
  fun_induction all rest generalizing front lexemes ends with
  | case1 rest none =>
    cases read
    refine ⟨[], ?_⟩
    have nothing : (layOut ends (Position.start.after front) []).filter Token.isSpelled = [] := by
      cases ends <;> rfl
    rw [nothing]
    exact .nil (by simpa using whole)
  | case2 rest lexeme later found _ lexemes' stuck same ih =>
    cases read
    obtain ⟨rejoined, nonempty⟩ := next?_eq_some found
    have joined : text.toList = front ++ lexeme.text ++ later := by
      rw [whole, ← rejoined, List.append_assoc]
    have cut : text.toList = front ++ (lexeme.text ++ later) := by rw [whole, rejoined]
    rw [layOut, ← Position.after_append]
    cases stands : lexeme.kind? with
    | none =>
      have spacing {tokens : List Token} {spans : List Span} :=
        @Covered.spacing text front later tokens spans lexeme.text cut fun part behind same =>
          spacing_of_next? found stands same
      simp only
      split
      · obtain ⟨spans, covered⟩ := ih joined same false
        exact ⟨spans, spacing covered⟩
      · obtain ⟨spans, covered⟩ := ih joined same ends
        exact ⟨spans, spacing covered⟩
    | some kind =>
      simp only
      rw [List.filter_cons_of_pos (isSpelled_of_kind? (formed_of_next? found) stands _)]
      let token : Token := ⟨kind, String.ofList lexeme.text, Position.start.after front⟩
      obtain ⟨spans, covered⟩ := ih joined same token.mayEndStatement
      have spelling : token.text.toList = lexeme.text := String.toList_ofList
      refine ⟨_, @Covered.token text front later _ spans token ?_ rfl ?_ ?_⟩
      · rw [spelling, cut]
      · rw [spelling]
        exact nonempty
      · rw [spelling]
        exact covered

end Lexeme

namespace Tokens

/-- The tokens that are spelled in the text -/
def spelled (tokens : Tokens) : List Token := tokens.toList.filter Token.isSpelled

/-- Whether tokens leave out nothing but blanks and comments of a text, and stand at exact places. The
only token that ends the file stands at the end of the text. -/
structure Cover (tokens : Tokens) (text : String) : Prop where
  spelled : ∃ spans, Covered text 0 tokens.spelled spans
  final : tokens.final.kind = .endOfFile
  inside : ∀ token ∈ tokens.body, token.kind ≠ .endOfFile
  ending : tokens.final.position.Denotes text text.utf8ByteSize

theorem cover_of_ofText {text : String} {tokens : Tokens} (read : ofText text = .ok tokens) :
    tokens.Cover text := by
  have proper := proper_of_ofText read
  obtain ⟨lexemes, whole, rfl⟩ := ofText_eq_ok_iff.1 read
  refine ⟨?_, rfl, fun token member => (proper.body token member).inside, ?_⟩
  · obtain ⟨spans, covered⟩ := @Lexeme.covered_layOut text [] text.toList lexemes rfl whole false
    refine ⟨spans, ?_⟩
    rw [spelled, toList, List.filter_append]
    change Covered text 0 (_ ++ []) spans
    rw [List.append_nil]
    exact covered
  · have ending := @Position.denotes_of_append text text.toList [] (by simp)
    rwa [byteSize_toList] at ending

/-- Places behind letters of two bytes, a comment over two lines and a literal over two lines -/
theorem cover_of_ofText_lines : ∃ tokens, ofText "é /* é\n*/x // y\n\x60r\ns\x60" = .ok tokens ∧
    tokens.toList.map Token.position = [⟨1, 1⟩, ⟨1, 4⟩, ⟨2, 3⟩, ⟨2, 9⟩, ⟨3, 1⟩, ⟨4, 3⟩, ⟨4, 3⟩] ∧
      tokens.Cover "é /* é\n*/x // y\n\x60r\ns\x60" := by
  have whole : Lexeme.all "é /* é\n*/x // y\n\x60r\ns\x60".toList =
      ([⟨.name, ['é']⟩, ⟨.blank, [' ']⟩, ⟨.comment, "/* é\n*/".toList⟩, ⟨.name, ['x']⟩,
        ⟨.blank, [' ']⟩, ⟨.comment, "// y".toList⟩, ⟨.blank, ['\n']⟩,
        ⟨.rawString, "\x60r\ns\x60".toList⟩], []) := by decide +kernel
  have read := ofText_eq_ok_iff.2 ⟨_, whole, rfl⟩
  exact ⟨_, read, by decide +kernel, cover_of_ofText read⟩

end Tokens

end GoDto
