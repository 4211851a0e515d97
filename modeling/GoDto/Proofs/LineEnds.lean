import GoDto.Proofs.Lossless

/-!
The semicolons that line breaks stand for. Behind a token that may end a statement there is one if a
line break follows before the next token does, or if no token follows. It stands where the first piece
of blank text that holds a line break begins. There are no others.
-/

namespace GoDto

/-- Pieces of blank text one after another, in front of more text -/
inductive Fillers (behind : List Char) : List (List Char) → Prop where
  | none : Fillers behind []
  | more {piece : List Char} {rest : List (List Char)} : Filler (rest.flatten ++ behind) piece →
      Fillers behind rest → Fillers behind (piece :: rest)

namespace Token

/-- A semicolon that stands for a line break -/
def isLineEnd (token : Token) : Bool := token.kind == .semicolon && token.text == "\n"

/-- Names, literals, four of the keywords and five of the operators may end a statement. -/
def Finishes (token : Token) : Prop :=
  token.kind ∈ [.identifier, .number, .string, .rawString, .rune] ∨
    token.kind = .keyword ∧ token.text ∈ ["break", "continue", "fallthrough", "return"] ∨
      token.kind = .operator ∧ token.text ∈ ["++", "--", ")", "]", "\x7d"]

/-- The semicolons between a token and the next one, which may be the end of the file. The pieces of
blank text between the two start at the offset. -/
inductive LineEnds (text : String) (token next : Token) (offset : Nat) (pieces : List (List Char)) :
    List Token → Prop where
  | broken {before after : List (List Char)} {piece : List Char} {place : Position} : token.Finishes →
      pieces = before ++ piece :: after → (∀ other ∈ before, '\n' ∉ other) → '\n' ∈ piece →
      place.Denotes text (offset + byteSize before.flatten) →
      LineEnds text token next offset pieces [.lineEnd place]
  | last {place : Position} : token.Finishes → (∀ piece ∈ pieces, '\n' ∉ piece) →
      next.kind = .endOfFile → place.Denotes text text.utf8ByteSize →
      LineEnds text token next offset pieces [.lineEnd place]
  | unbroken : (∀ piece ∈ pieces, '\n' ∉ piece) → next.kind ≠ .endOfFile →
      LineEnds text token next offset pieces []
  | unfinished : ¬token.Finishes → LineEnds text token next offset pieces []

/-- Whether the token stands at the offset, or ends the file there because the text ends -/
inductive StandsAt (text : String) (offset : Nat) (token : Token) : Prop where
  | spelled {stop : Nat} : token.isSpelled = true → token.Fills text ⟨offset, stop⟩ →
      StandsAt text offset token
  | ending : token.kind = .endOfFile → offset = text.utf8ByteSize → StandsAt text offset token

/-- How a text goes on behind a token, with the tokens that follow: blank text up to the next token,
and the semicolons that it stands for -/
inductive Followed (text : String) (token : Token) (after : List Token) : Prop where
  | intro {span : Span} {offset : Nat} {pieces : List (List Char)} {behind : List Char} {next : Token} :
      token.Fills text span → Span.Holds ⟨span.stop, offset⟩ text pieces.flatten behind →
      Fillers behind pieces → (after.dropWhile isLineEnd).head? = some next →
      next.StandsAt text offset →
      token.LineEnds text next span.stop pieces (after.takeWhile isLineEnd) → Followed text token after

theorem isLineEnd_lineEnd (place : Position) : (lineEnd place).isLineEnd = true := rfl

theorem isSpelled_iff {token : Token} :
    token.isSpelled = true ↔ token.kind ≠ .endOfFile ∧ token.isLineEnd = false := by
  simp only [isSpelled, isLineEnd, Bool.and_eq_true, bne_iff_ne, Bool.not_eq_true']

theorem StandsAt.isLineEnd_eq_false {text : String} {offset : Nat} {token : Token}
    (stands : token.StandsAt text offset) : token.isLineEnd = false := by
  cases stands with
  | spelled spelled => exact (isSpelled_iff.1 spelled).2
  | ending ends => simp [isLineEnd, ends]

theorem mayEndStatement_iff {token : Token} : token.mayEndStatement = true ↔ token.Finishes := by
  unfold mayEndStatement Finishes
  cases token.kind <;> simp [rightBrace]

end Token

namespace Lexeme

section
variable {text rest : List Char} {lexeme : Lexeme}

theorem all_eq_cons {later : List Lexeme} {stuck : List Char}
    (read : all text = (lexeme :: later, stuck)) :
    ∃ rest, text = lexeme.text ++ rest ∧ next? text = some (lexeme, rest) ∧
      all rest = (later, stuck) := by
  rw [all] at read
  split at read
  · cases read
  · next found =>
    cases read
    exact ⟨_, (next?_eq_some found).1.symm, found, rfl⟩

/-- Lexemes in front are read, and then the others. -/
theorem all_eq_append {first later : List Lexeme} {stuck : List Char}
    (read : all text = (first ++ later, stuck)) :
    ∃ rest, text = first.flatMap Lexeme.text ++ rest ∧ all rest = (later, stuck) := by
  induction first generalizing text with
  | nil => exact ⟨text, rfl, read⟩
  | cons lexeme first ih =>
    obtain ⟨middle, whole, -, read⟩ := all_eq_cons read
    obtain ⟨rest, same, read⟩ := ih read
    exact ⟨rest, by rw [whole, same, List.flatMap_cons, List.append_assoc], read⟩

theorem fillers_of_all {blanks later : List Lexeme} {stuck : List Char}
    (blank : ∀ lexeme ∈ blanks, lexeme.kind? = none) (read : all text = (blanks ++ later, stuck)) :
    ∃ rest, text = (blanks.map Lexeme.text).flatten ++ rest ∧ Fillers rest (blanks.map Lexeme.text) ∧
      all rest = (later, stuck) := by
  induction blanks generalizing text with
  | nil => exact ⟨text, rfl, .none, read⟩
  | cons lexeme blanks ih =>
    obtain ⟨middle, whole, found, read⟩ := all_eq_cons read
    obtain ⟨rest, same, fillers, read⟩ :=
      ih (fun other member => blank other (List.mem_cons_of_mem _ member)) read
    have filler := filler_of_next? found (blank lexeme List.mem_cons_self)
    rw [same] at filler
    exact ⟨rest, by rw [whole, same, List.map_cons, List.flatten_cons, List.append_assoc],
      .more filler fillers, read⟩

end

section
variable {lexemes : List Lexeme} {ends : Bool} {position : Position}

/-- The token stands for one of the lexemes, and what comes after it is laid out from there on. -/
def Yields (position : Position) (lexemes : List Lexeme) (token : Token) (after : List Token) : Prop :=
  ∃ first lexeme later kind, lexemes = first ++ lexeme :: later ∧ lexeme.kind? = some kind ∧
    token = ⟨kind, String.ofList lexeme.text, position.after (first.flatMap Lexeme.text)⟩ ∧
    after = layOut token.mayEndStatement
      (position.after (first.flatMap Lexeme.text ++ lexeme.text)) later

theorem Yields.cons {token : Token} {after : List Token} {lexeme : Lexeme}
    (yields : Yields (position.after lexeme.text) lexemes token after) :
    Yields position (lexeme :: lexemes) token after := by
  obtain ⟨first, other, later, kind, same, stands, own, rest⟩ := yields
  refine ⟨lexeme :: first, other, later, kind, by rw [same, List.cons_append], stands, ?_, ?_⟩
  · rw [own, List.flatMap_cons, Position.after_append]
  · rw [rest, List.flatMap_cons, List.append_assoc, Position.after_append _ lexeme.text]

theorem yields_of_layOut {before after : List Token} {token : Token} (spelled : token.isSpelled = true)
    (laid : layOut ends position lexemes = before ++ token :: after) :
    Yields position lexemes token after := by
  have other (place : Position) : token ≠ .lineEnd place := by
    intro same
    subst same
    cases spelled
  induction lexemes generalizing ends position before with
  | nil =>
    unfold layOut at laid
    have member : token ∈ if ends then [Token.lineEnd position] else [] := by simp [laid]
    split at member
    · exact absurd (List.mem_singleton.1 member) (other position)
    · cases member
  | cons lexeme lexemes ih =>
    unfold layOut at laid
    cases stands : lexeme.kind? with
    | none =>
      simp only [stands] at laid
      split at laid
      · cases before with
        | nil => exact absurd (List.cons.inj laid).1.symm (other position)
        | cons semicolon before => exact (ih (List.cons.inj laid).2).cons
      · exact (ih laid).cons
    | some kind =>
      simp only [stands] at laid
      cases before with
      | nil =>
        obtain ⟨rfl, rfl⟩ := List.cons.inj laid
        exact ⟨[], lexeme, lexemes, kind, rfl, stands, rfl, rfl⟩
      | cons earlier before => exact (ih (List.cons.inj laid).2).cons

/-- Blank text adds a semicolon at its first line break, if there is any. -/
theorem layOut_blanks {blanks : List Lexeme} (blank : ∀ lexeme ∈ blanks, lexeme.kind? = none)
    (ends : Bool) (position : Position) (rest : List Lexeme) :
    ((∀ piece ∈ blanks.map Lexeme.text, '\n' ∉ piece) ∧ layOut ends position (blanks ++ rest) =
      layOut ends (position.after (blanks.map Lexeme.text).flatten) rest) ∨
    ∃ before piece after, blanks.map Lexeme.text = before ++ piece :: after ∧
      (∀ other ∈ before, '\n' ∉ other) ∧ '\n' ∈ piece ∧
      layOut ends position (blanks ++ rest) = seam ends (position.after before.flatten) ++
        layOut false (position.after (blanks.map Lexeme.text).flatten) rest := by
  induction blanks generalizing ends position with
  | nil => exact .inl ⟨by simp, rfl⟩
  | cons lexeme blanks ih =>
    have later := ih (fun other member => blank other (List.mem_cons_of_mem _ member))
    have stands := blank lexeme List.mem_cons_self
    rw [List.map_cons, List.flatten_cons, Position.after_append, List.cons_append, layOut, stands]
    by_cases breaks : '\n' ∈ lexeme.text
    · -- Behind the first line break no other one counts.
      have rested : layOut false (position.after lexeme.text) (blanks ++ rest) =
          layOut false ((position.after lexeme.text).after (blanks.map Lexeme.text).flatten) rest := by
        rcases later false (position.after lexeme.text) with ⟨-, same⟩ | ⟨_, _, _, -, -, -, same⟩
        · exact same
        · exact same
      refine .inr ⟨[], lexeme.text, blanks.map Lexeme.text, rfl, by simp, breaks, ?_⟩
      rw [← rested]
      cases ends <;> simp [seam, breaks]
    · simp only [List.contains_eq_mem, breaks, decide_false, Bool.and_false, Bool.false_eq_true, if_false]
      rcases later ends (position.after lexeme.text) with
        ⟨unbroken, same⟩ | ⟨before, piece, after, split, unbroken, inside, same⟩
      · exact .inl ⟨List.forall_mem_cons.2 ⟨breaks, unbroken⟩, same⟩
      · refine .inr ⟨lexeme.text :: before, piece, after, by rw [split, List.cons_append],
          List.forall_mem_cons.2 ⟨breaks, unbroken⟩, inside, ?_⟩
        rw [same, List.flatten_cons, Position.after_append]

end

section
variable {text : String} {token next : Token} {after later : List Token} {pieces : List (List Char)}
  {flag : Bool} {place : Position}

/-- What follows a token is known where the semicolons in front of the next one are. -/
theorem followed_of_seam {span : Span} {offset : Nat} {behind : List Char} (fills : token.Fills text span)
    (held : Span.Holds ⟨span.stop, offset⟩ text pieces.flatten behind) (fillers : Fillers behind pieces)
    (stands : next.StandsAt text offset) (laid : after = seam flag place ++ next :: later)
    (semicolons : token.LineEnds text next span.stop pieces (seam flag place)) :
    token.Followed text after := by
  have visible := stands.isLineEnd_eq_false
  have taken : after.takeWhile Token.isLineEnd = seam flag place := by
    rw [laid]
    cases flag <;> simp [seam, List.takeWhile_cons, Token.isLineEnd_lineEnd, visible]
  have dropped : after.dropWhile Token.isLineEnd = next :: later := by
    rw [laid]
    cases flag <;> simp [seam, List.dropWhile_cons, Token.isLineEnd_lineEnd, visible]
  refine .intro fills held fillers (by rw [dropped]; rfl) stands ?_
  rw [taken]
  exact semicolons

theorem lineEnds_of_unbroken {offset : Nat} (unbroken : ∀ piece ∈ pieces, '\n' ∉ piece)
    (ending : next.kind = .endOfFile → place.Denotes text text.utf8ByteSize) :
    token.LineEnds text next offset pieces
      (seam (token.mayEndStatement && next.kind == .endOfFile) place) := by
  cases finishes : token.mayEndStatement with
  | false => exact .unfinished (by simp [← Token.mayEndStatement_iff, finishes])
  | true =>
    by_cases last : next.kind = .endOfFile
    · rw [last]
      exact .last (Token.mayEndStatement_iff.1 finishes) unbroken last (ending last)
    · rw [beq_eq_false_iff_ne.2 last]
      exact .unbroken unbroken last

theorem lineEnds_of_broken {offset : Nat} {before behind : List (List Char)} {piece : List Char}
    (split : pieces = before ++ piece :: behind) (unbroken : ∀ other ∈ before, '\n' ∉ other)
    (breaks : '\n' ∈ piece) (here : place.Denotes text (offset + byteSize before.flatten)) :
    token.LineEnds text next offset pieces (seam token.mayEndStatement place) := by
  cases finishes : token.mayEndStatement with
  | false => exact .unfinished (by simp [← Token.mayEndStatement_iff, finishes])
  | true => exact .broken (Token.mayEndStatement_iff.1 finishes) split unbroken breaks here

end

/-- The tokens of a text from the place behind `front` on, up to the end of the file -/
def layOutBehind (text : String) (front : List Char) (ends : Bool) (lexemes : List Lexeme) : List Token :=
  layOut ends (Position.start.after front) lexemes ++ [.fileEnd (Position.start.after text.toList)]

/-- Where no blank text comes next, a token does, or the end of the text and of the file. -/
theorem next_of_all {text : String} {front rest : List Char} {lexemes : List Lexeme}
    (whole : text.toList = front ++ rest) (read : all rest = (lexemes, []))
    (visible : ∀ lexeme ∈ lexemes.head?, lexeme.kind? ≠ none) :
    ∃ next : Token, next.StandsAt text (byteSize front) ∧ ∀ flag, ∃ later,
      layOutBehind text front flag lexemes =
        seam (flag && next.kind == .endOfFile) (Position.start.after front) ++ next :: later := by
  cases lexemes with
  | nil =>
    have nothing := flatMap_all rest
    rw [read] at nothing
    obtain rfl : [] = rest := nothing
    rw [List.append_nil] at whole
    refine ⟨.fileEnd (Position.start.after text.toList), .ending rfl ?_, fun flag => ⟨[], ?_⟩⟩
    · rw [← whole, byteSize_toList]
    · cases flag <;> rfl
  | cons lexeme lexemes =>
    obtain ⟨behind, same, found, -⟩ := all_eq_cons read
    obtain ⟨kind, stands⟩ := Option.ne_none_iff_exists'.1 (visible lexeme rfl)
    let token : Token := ⟨kind, String.ofList lexeme.text, Position.start.after front⟩
    have spelled : token.isSpelled = true := isSpelled_of_kind? (formed_of_next? found) stands _
    have spelling : token.text.toList = lexeme.text := String.toList_ofList
    have fills : token.Fills text ⟨byteSize front, byteSize (front ++ token.text.toList)⟩ := by
      have begins : text.toList = front ++ (token.text.toList ++ behind) := by
        rw [spelling, whole, same]
      exact Token.fills_of_append begins rfl (spelling ▸ (next?_eq_some found).2)
    refine ⟨token, .spelled spelled fills, fun flag => ⟨layOutBehind text (front ++ lexeme.text)
      token.mayEndStatement lexemes, ?_⟩⟩
    rw [layOutBehind, layOutBehind, Position.after_append, layOut, stands,
      beq_eq_false_iff_ne.2 (Token.isSpelled_iff.1 spelled).1, Bool.and_false]
    rfl

/-- Blank text up to the next token, and what is laid out from there on. The semicolon of a line break
comes before that token. -/
theorem gap_of_all {text : String} {front rest : List Char} {lexemes : List Lexeme}
    (whole : text.toList = front ++ rest) (read : all rest = (lexemes, [])) :
    ∃ pieces behind next, rest = pieces.flatten ++ behind ∧ Fillers behind pieces ∧
      next.StandsAt text (byteSize (front ++ pieces.flatten)) ∧ ∀ flag, ∃ later,
        (∀ piece ∈ pieces, '\n' ∉ piece) ∧
          layOutBehind text front flag lexemes =
            seam (flag && next.kind == .endOfFile) (Position.start.after (front ++ pieces.flatten)) ++
              next :: later ∨
        ∃ before piece after, pieces = before ++ piece :: after ∧ (∀ other ∈ before, '\n' ∉ other) ∧
          '\n' ∈ piece ∧
          layOutBehind text front flag lexemes =
            seam flag (Position.start.after (front ++ before.flatten)) ++ next :: later := by
  let blanks := lexemes.takeWhile fun lexeme => lexeme.kind?.isNone
  let others := lexemes.dropWhile fun lexeme => lexeme.kind?.isNone
  have cut : lexemes = blanks ++ others := List.takeWhile_append_dropWhile.symm
  have blank : ∀ lexeme ∈ blanks, lexeme.kind? = none := by
    intro lexeme member
    simpa using List.all_eq_true.1 List.all_takeWhile lexeme member
  have visible : ∀ lexeme ∈ others.head?, lexeme.kind? ≠ none := by
    intro lexeme first absent
    have stops := not_of_head_dropWhile first
    simp [absent] at stops
  rw [cut] at read ⊢
  obtain ⟨behind, same, fillers, read⟩ := fillers_of_all blank read
  have reached : text.toList = front ++ (blanks.map Lexeme.text).flatten ++ behind := by
    rw [whole, same, List.append_assoc]
  obtain ⟨next, stands, laid⟩ := next_of_all reached read visible
  refine ⟨_, behind, next, same, fillers, stands, fun flag => ?_⟩
  have blanksLaid := layOut_blanks blank flag (Position.start.after front) others
  simp only [← Position.after_append] at blanksLaid
  rcases blanksLaid with ⟨unbroken, rest⟩ | ⟨before, piece, after, split, unbroken, breaks, rest⟩
  · obtain ⟨later, laid⟩ := laid flag
    refine ⟨later, .inl ⟨unbroken, ?_⟩⟩
    rw [layOutBehind, rest]
    exact laid
  · obtain ⟨later, laid⟩ := laid false
    refine ⟨later, .inr ⟨before, piece, after, split, unbroken, breaks, ?_⟩⟩
    rw [layOutBehind, rest, List.append_assoc]
    exact congrArg _ laid

/-- What follows a lexeme that stands for a token -/
theorem followed_of_all {text : String} {front rest : List Char} {later : List Lexeme} {token : Token}
    (whole : text.toList = front ++ (token.text.toList ++ rest))
    (place : token.position = Position.start.after front) (nonempty : token.text.toList ≠ [])
    (read : all rest = (later, [])) :
    token.Followed text
      (layOutBehind text (front ++ token.text.toList) token.mayEndStatement later) := by
  have fills := Token.fills_of_append whole place nonempty
  rw [← List.append_assoc] at whole
  obtain ⟨pieces, behind, next, rfl, fillers, stands, laid⟩ := gap_of_all whole read
  rw [← List.append_assoc] at whole
  have held : Span.Holds ⟨byteSize (front ++ token.text.toList),
      byteSize (front ++ token.text.toList ++ pieces.flatten)⟩ text pieces.flatten behind :=
    ⟨front ++ token.text.toList, whole, rfl, rfl⟩
  obtain ⟨later, ⟨unbroken, laid⟩ | ⟨before, piece, after, split, unbroken, breaks, laid⟩⟩ :=
    laid token.mayEndStatement
  · apply followed_of_seam fills held fillers stands laid
    apply lineEnds_of_unbroken unbroken
    intro last
    have here := Position.denotes_of_append whole
    cases stands with
    | spelled spelled => exact absurd last (Token.isSpelled_iff.1 spelled).1
    | ending _ reachesEnd => rwa [reachesEnd] at here
  · apply followed_of_seam fills held fillers stands laid
    apply lineEnds_of_broken split unbroken breaks
    rw [← byteSize_append]
    have begins : text.toList = front ++ token.text.toList ++ before.flatten ++
        (piece ++ after.flatten ++ behind) := by
      rw [whole, split]
      simp only [List.flatten_append, List.flatten_cons, List.append_assoc]
    exact Position.denotes_of_append begins

end Lexeme

namespace Tokens

variable {text : String} {tokens : Tokens}

theorem toList_eq_append {before after : List Token} {token : Token}
    (split : tokens.toList = before ++ token :: after) (inside : token.kind ≠ .endOfFile) :
    ∃ rest, tokens.body = before ++ token :: rest ∧ after = rest ++ [tokens.final] := by
  rcases List.eq_nil_or_concat after with rfl | ⟨rest, last, rfl⟩
  · obtain ⟨-, same⟩ := List.append_inj' split rfl
    cases same
    exact absurd tokens.final_ends inside
  · rw [List.concat_eq_append, ← List.cons_append, ← List.append_assoc] at split
    obtain ⟨body, same⟩ := List.append_inj' split rfl
    cases same
    exact ⟨rest, body, List.concat_eq_append⟩

/-- Whether semicolons stand for line breaks where they should and nowhere else: none before the first
token that is spelled, and behind each of those tokens what line breaks call for. The end of the file
comes last only. -/
structure EndsLines (tokens : Tokens) (text : String) : Prop where
  inner : ∀ token ∈ tokens.body, token.kind ≠ .endOfFile
  first : ∀ first ∈ tokens.toList.head?, first.isLineEnd = false
  later : ∀ before token after, tokens.toList = before ++ token :: after → token.isSpelled = true →
    token.Followed text after

theorem endsLines_of_ofText (read : ofText text = .ok tokens) : tokens.EndsLines text := by
  have inner := fun token member => ((proper_of_ofText read).body token member).inside
  obtain ⟨lexemes, whole, rfl⟩ := ofText_eq_ok_iff.1 read
  refine ⟨inner, ?_, ?_⟩
  · obtain ⟨pieces, behind, next, -, -, stands, laid⟩ := @Lexeme.gap_of_all text [] _ _ rfl whole
    have starts : ∃ later, Lexeme.layOutBehind text [] false lexemes = next :: later := by
      obtain ⟨later, ⟨-, laid⟩ | ⟨_, _, _, -, -, -, laid⟩⟩ := laid false
      · exact ⟨later, laid⟩
      · exact ⟨later, laid⟩
    obtain ⟨later, laid⟩ := starts
    intro first head
    change first ∈ (Lexeme.layOutBehind text [] false lexemes).head? at head
    rw [laid] at head
    cases head
    exact stands.isLineEnd_eq_false
  · intro before token after split spelled
    obtain ⟨rest, body, rfl⟩ := toList_eq_append split (Token.isSpelled_iff.1 spelled).1
    obtain ⟨first, lexeme, later, kind, rfl, stands, own, rfl⟩ := Lexeme.yields_of_layOut spelled body
    obtain ⟨middle, same, whole⟩ := Lexeme.all_eq_append whole
    obtain ⟨behind, rfl, found, whole⟩ := Lexeme.all_eq_cons whole
    have spelling : token.text.toList = lexeme.text := by rw [own, String.toList_ofList]
    have nonempty := (Lexeme.next?_eq_some found).2
    rw [← spelling] at same nonempty ⊢
    exact Lexeme.followed_of_all same (by rw [own]) nonempty whole

/-- A comment on the line of a token, a comment over two lines after it, and a last token behind which
nothing follows -/
theorem endsLines_of_ofText_comments : ∃ tokens,
    ofText "x /* é */ // y\n + )/* a\nb */ \n\n z" = .ok tokens ∧
      (tokens.toList.filter Token.isLineEnd).map Token.position = [⟨1, 16⟩, ⟨2, 5⟩, ⟨5, 3⟩] ∧
        tokens.EndsLines "x /* é */ // y\n + )/* a\nb */ \n\n z" := by
  have whole : Lexeme.all "x /* é */ // y\n + )/* a\nb */ \n\n z".toList =
      ([⟨.name, ['x']⟩, ⟨.blank, [' ']⟩, ⟨.comment, "/* é */".toList⟩, ⟨.blank, [' ']⟩,
        ⟨.comment, "// y".toList⟩, ⟨.blank, "\n ".toList⟩, ⟨.operator, ['+']⟩, ⟨.blank, [' ']⟩,
        ⟨.operator, [')']⟩, ⟨.comment, "/* a\nb */".toList⟩, ⟨.blank, " \n\n ".toList⟩,
        ⟨.name, ['z']⟩], []) := by decide +kernel
  have read := ofText_eq_ok_iff.2 ⟨_, whole, rfl⟩
  exact ⟨_, read, by decide +kernel, endsLines_of_ofText read⟩

end Tokens

end GoDto
