import GoDto.Proofs.Faces
import GoDto.Proofs.TokenSeam

/-!
Tokens written out again with single spaces between them. Every lexeme that stands for a token is
read again where a space or nothing follows, and a line break that ended a statement ends it again.
So the tokens stay what they were, and nothing else in a text matters.
-/

namespace GoDto

open Unicode

namespace Lexeme

section
variable {text : List Char} {split : Split}

theorem run_front (test : Char → Bool) (text : List Char) :
    Split.run test (Split.run test text).front = ⟨(Split.run test text).front, []⟩ := by
  have through := @run_eq (Split.run test text).front [] test (fun c => mem_front_run) (by simp)
  rwa [List.append_nil] at through

theorem closeComment_front (found : closeComment text = some split) :
    closeComment split.front = some ⟨split.front, []⟩ := by
  fun_induction closeComment text generalizing split with
  | case1 => cases found
  | case2 rest =>
    cases found
    rfl
  | case3 c rest other ih =>
    obtain ⟨inner, closed, rfl⟩ := Option.map_eq_some_iff.1 found
    have later := ih closed
    have whole := whole_closeComment closed
    rw [Split.front_after, List.singleton_append, closeComment]
    · rw [later]
      rfl
    · rintro more rfl front
      apply other (more ++ inner.rest) rfl
      rw [← whole, Split.whole, front]
      rfl

theorem closeLiteral_front {mark : Char} (plain : mark ≠ '\\')
    (found : closeLiteral mark text = some split) :
    closeLiteral mark split.front = some ⟨split.front, []⟩ := by
  fun_induction closeLiteral mark text generalizing split with
  | case1 => cases found
  | case2 => cases found
  | case3 c rest visible ih =>
    obtain ⟨inner, closed, rfl⟩ := Option.map_eq_some_iff.1 found
    simp [closeLiteral, visible, ih closed, Split.after]
  | case4 rest other =>
    cases found
    simp [closeLiteral]
  | case5 => cases found
  | case6 c rest other differs visible ih =>
    obtain ⟨inner, closed, rfl⟩ := Option.map_eq_some_iff.1 found
    rw [Split.front_after, List.singleton_append, closeLiteral]
    · rw [if_neg differs, if_neg visible, ih closed]
      rfl
    · intro _ _ same
      exact absurd (.inr same) visible

theorem closeRaw_front (found : closeRaw text = some split) :
    closeRaw split.front = some ⟨split.front, []⟩ := by
  fun_induction closeRaw text generalizing split with
  | case1 => cases found
  | case2 rest =>
    cases found
    rfl
  | case3 c rest other ih =>
    obtain ⟨inner, closed, rfl⟩ := Option.map_eq_some_iff.1 found
    simp [closeRaw, other, ih closed, Split.after]

theorem numberRest_front (text : List Char) :
    numberRest (numberRest text).front = ⟨(numberRest text).front, []⟩ := by
  fun_induction numberRest text with
  | case1 => rfl
  | case2 c part => simp [numberRest, part]
  | case3 c part => rfl
  | case4 c next rest signed ih =>
    rw [Split.front_after, List.cons_append, List.singleton_append, numberRest, if_pos signed, ih]
    rfl
  | case5 c next rest signed part ih =>
    have whole := whole_numberRest (next :: rest)
    rw [Split.front_after, List.singleton_append]
    cases front : (numberRest (next :: rest)).front with
    | nil => simp [numberRest, part]
    | cons d more =>
      obtain ⟨rfl, -⟩ : d = next ∧ _ := by simpa [Split.whole, front] using whole
      rw [front] at ih
      rw [numberRest, if_neg signed, if_pos part, ih]
      rfl
  | case6 c next rest signed part => rfl

theorem strip?_append_self (spelling rest : List Char) :
    strip? spelling (spelling ++ rest) = some rest := by
  induction spelling with
  | nil => rfl
  | cons c spelling ih => simp [strip?, ih]

/-- An operator that was found first is found first on its own, because whatever would be found
before it would have been found before it then. -/
theorem nextOperator?_front (found : nextOperator? text = some split) :
    nextOperator? split.front = some ⟨split.front, []⟩ := by
  obtain ⟨before, spelling, behind, listed, matched, earlier⟩ := List.findSome?_eq_some_iff.1 found
  obtain ⟨rest, stripped, rfl⟩ := Option.map_eq_some_iff.1 matched
  refine List.findSome?_eq_some_iff.2 ⟨before, spelling, behind, listed, ?_, ?_⟩
  · have self := strip?_append_self spelling.toList []
    rw [List.append_nil] at self
    rw [self]
    rfl
  · intro other member
    rw [Option.map_eq_none_iff, Option.eq_none_iff_forall_ne_some]
    intro more inside
    have spelled : other.toList ++ more = spelling.toList := append_of_strip? inside
    have failed := earlier other member
    rw [← append_of_strip? stripped, ← spelled, List.append_assoc, strip?_append_self] at failed
    cases failed

theorem startsNumber_append {c : Char} {text more : List Char} (starts : startsNumber c text = true) :
    startsNumber c (text ++ more) = true := by
  cases text with
  | nil =>
    have digit : isDigit c = true := by simpa [startsNumber] using starts
    simp [startsNumber, digit]
  | cons d text => exact starts

theorem cutPlain?_front {c : Char} {shape : Shape} (found : cutPlain? c text = some (shape, split)) :
    ∃ more, split.front = c :: more ∧ more ++ split.rest = text ∧
      cutPlain? c more = some (shape, ⟨split.front, []⟩) := by
  unfold cutPlain? at found
  split at found
  · next starts =>
    cases found
    refine ⟨(numberRest text).front, rfl, whole_numberRest text, ?_⟩
    rw [cutPlain?, if_pos (startsNumber_front starts), numberRest_front]
    rfl
  · next other =>
    -- What starts no number starts none on its own.
    have alone {more rest : List Char} (whole : more ++ rest = text) :
        ¬startsNumber c more = true := by
      intro starts
      apply other
      rw [← whole]
      exact startsNumber_append starts
    split at found
    · next starts =>
      cases found
      have whole := Split.whole_run isNamePart text
      refine ⟨(Split.run isNamePart text).front, rfl, whole, ?_⟩
      rw [cutPlain?, if_neg (alone whole), if_pos starts, run_front]
      rfl
    · next nameless =>
      split at found
      · next starts =>
        cases found
        have whole := Split.whole_run isBlank text
        refine ⟨(Split.run isBlank text).front, rfl, whole, ?_⟩
        rw [cutPlain?, if_neg (alone whole), if_neg nameless, if_pos starts, run_front]
        rfl
      · next visible =>
        obtain ⟨inner, cut, same⟩ := Option.map_eq_some_iff.1 found
        cases same
        obtain ⟨whole, nonempty⟩ := nextOperator?_eq_some cut
        obtain ⟨d, more, front⟩ := List.exists_cons_of_ne_nil nonempty
        have joined : d :: (more ++ split.rest) = c :: text := by rw [← whole, Split.whole, front]; rfl
        obtain ⟨rfl, behind⟩ := List.cons.inj joined
        refine ⟨more, front, behind, ?_⟩
        rw [cutPlain?, if_neg (alone behind), if_neg nameless, if_neg visible, ← front,
          nextOperator?_front cut]
        rfl

/-- What closes a comment or a literal closes it at the end of a text, too. -/
theorem delimited_front {close : List Char → Option Split} {own shape : Shape} {opening : List Char}
    (closes : ∀ inner, close text = some inner → close inner.front = some ⟨inner.front, []⟩)
    (found : ((close text).map fun inner => (own, inner.after opening)) = some (shape, split)) :
    ∃ more, split.front = opening ++ more ∧
      ((close more).map fun inner => (own, inner.after opening)) =
        some (shape, ⟨opening ++ more, []⟩) := by
  obtain ⟨inner, closed, same⟩ := Option.map_eq_some_iff.1 found
  cases same
  refine ⟨inner.front, rfl, ?_⟩
  rw [closes inner closed]
  rfl

/-- A lexeme is read from its own text. -/
theorem cut?_front {shape : Shape} (found : cut? text = some (shape, split)) :
    cut? split.front = some (shape, ⟨split.front, []⟩) := by
  unfold cut? at found
  split at found
  · cases found
  · cases found
    simp only [Split.front_after, List.cons_append, List.nil_append, cut?, run_front]
    rfl
  · obtain ⟨more, front, closed⟩ := delimited_front (fun _ => closeComment_front) found
    rw [front]
    exact closed
  · obtain ⟨more, front, closed⟩ := delimited_front (fun _ => closeRaw_front) found
    rw [front]
    exact closed
  · obtain ⟨more, front, closed⟩ := delimited_front (fun _ => closeLiteral_front (by decide)) found
    rw [front]
    exact closed
  · obtain ⟨more, front, closed⟩ := delimited_front (fun _ => closeLiteral_front (by decide)) found
    rw [front]
    exact closed
  · next c rest line block raw string rune =>
    obtain ⟨more, front, joined, plain⟩ := cutPlain?_front found
    rw [front] at plain ⊢
    rw [cut?_of_plain raw string rune, plain]
    intro slash d first
    cases more with
    | nil => cases first
    | cons e more =>
      obtain rfl : e = d := by simpa using first
      exact ⟨fun same => line (more ++ split.rest) slash (by rw [← joined, same]; rfl),
        fun same => block (more ++ split.rest) slash (by rw [← joined, same]; rfl)⟩

end

/-- Whether the lexeme is what its own text is read as -/
def Alone (lexeme : Lexeme) : Prop := cut? lexeme.text = some (lexeme.shape, ⟨lexeme.text, []⟩)

theorem alone_of_all {text : List Char} : ∀ lexeme ∈ (all text).1, lexeme.Alone := by
  fun_induction all text with
  | case1 => simp
  | case2 text lexeme rest found _ later stuck same ih =>
    intro other member
    rcases List.mem_cons.1 member with rfl | inside
    · obtain ⟨⟨shape, split⟩, cut, same⟩ := Option.map_eq_some_iff.1 found
      cases same
      exact cut?_front cut
    · exact ih other (by simpa [same] using inside)

section
variable {lexeme : Lexeme} {more : List Char}

theorem Alone.next?_self (alone : lexeme.Alone) : next? lexeme.text = some (lexeme, []) := by
  rw [next?, alone]
  rfl

/-- What stands for a token is read in front of a blank as it is read alone. -/
theorem Alone.next?_blank {gap : Char} (alone : lexeme.Alone) {kind : Token.Kind}
    (stands : lexeme.kind? = some kind) (blank : isBlank gap = true) :
    next? (lexeme.text ++ gap :: more) = some (lexeme, gap :: more) := by
  have notBlank : lexeme.shape ≠ .blank := by
    intro same
    simp [kind?, same] at stands
  have notComment : lexeme.shape ≠ .comment := by
    intro same
    simp [kind?, same] at stands
  rw [next?, cut?_append blank alone (fun same => absurd same notBlank)
    fun same => absurd same notComment]
  rfl

theorem Alone.head (alone : lexeme.Alone) {kind : Token.Kind} (stands : lexeme.kind? = some kind) :
    ∃ c rest, lexeme.text = c :: rest ∧ isBlank c = false := by
  have nonempty : lexeme.text ≠ [] := (cut?_eq_some alone).2
  obtain ⟨c, rest, spelled⟩ := List.exists_cons_of_ne_nil nonempty
  refine ⟨c, rest, spelled, ?_⟩
  rw [Bool.eq_false_iff]
  intro blank
  rw [Alone, spelled, cut?_of_blank blank] at alone
  have shape : lexeme.shape = .blank := (congrArg Prod.fst (Option.some.inj alone)).symm
  simp [kind?, shape] at stands

theorem all_nil : all [] = ([], []) := by
  rw [all]
  rfl

/-- Blanks in front of what is not blank -/
theorem all_blank_append {blanks text : List Char} (nonempty : blanks ≠ [])
    (blank : ∀ c ∈ blanks, isBlank c = true) (visible : ∀ c ∈ text.head?, isBlank c = false) :
    all (blanks ++ text) = (⟨.blank, blanks⟩ :: (all text).1, (all text).2) :=
  all_of_next? (next?_gap nonempty blank visible)

theorem all_blank_cons {c : Char} {text : List Char} (blank : isBlank c = true) :
    all (c :: text) = (⟨.blank, c :: (Split.run isBlank text).front⟩ ::
      (all (Split.run isBlank text).rest).1, (all (Split.run isBlank text).rest).2) := by
  apply all_of_next?
  rw [next?, cut?_of_blank blank]
  simp [Split.run, blank]

/-- A blank character less at the front changes nothing. -/
theorem all_of_blank_cons {c : Char} {text : List Char} (blank : isBlank c = true) :
    (all text).2 = (all (c :: text)).2 ∧ faces false (all text).1 = faces false (all (c :: text)).1 := by
  rw [all_blank_cons blank]
  cases text with
  | nil => exact ⟨rfl, rfl⟩
  | cons d text =>
    by_cases inside : isBlank d = true
    · have same : (Split.run isBlank (d :: text)).rest = (Split.run isBlank text).rest := by
        simp [Split.run, inside]
      rw [same, all_blank_cons inside]
      exact ⟨rfl, rfl⟩
    · have same : (Split.run isBlank (d :: text)).rest = d :: text := by
        simp [Split.run, inside]
      rw [same]
      exact ⟨rfl, rfl⟩

end

/-- Faces written out, each after a space -/
def spaced (faces : List (Token.Kind × String)) : List Char :=
  faces.flatMap fun face => ' ' :: face.2.toList

theorem spaced_cons (face : Token.Kind × String) (faces : List (Token.Kind × String)) :
    spaced (face :: faces) = ' ' :: (face.2.toList ++ spaced faces) := rfl

section
variable {lexemes : List Lexeme} {lexeme : Lexeme} {ends : Bool}

/-- What stands for a token is read in front of spaced tokens as it is read alone. -/
theorem next?_spaced (alone : lexeme.Alone) {kind : Token.Kind} (stands : lexeme.kind? = some kind)
    (faces : List (Token.Kind × String)) :
    next? (lexeme.text ++ spaced faces) = some (lexeme, spaced faces) := by
  cases faces with
  | nil =>
    rw [spaced, List.flatMap_nil, List.append_nil]
    exact alone.next?_self
  | cons face faces => exact alone.next?_blank stands (by decide)

theorem faces_none (stands : lexeme.kind? = none)
    (unbroken : ¬(ends && lexeme.text.contains '\n') = true) :
    faces ends (lexeme :: lexemes) = faces ends lexemes := by
  simp only [faces, stands, unbroken, Bool.false_eq_true, if_false]

theorem faces_break (stands : lexeme.kind? = none)
    (breaks : (ends && lexeme.text.contains '\n') = true) :
    faces ends (lexeme :: lexemes) = lineFace :: faces false lexemes := by
  simp only [faces, stands, breaks, if_true]

/-- Lexemes written out with spaces are lexemes again that stand for the same. Blanks in front go into
the first of them, which is how a line break is found behind the space that it is written after. -/
theorem all_spaced (alone : ∀ lexeme ∈ lexemes, lexeme.Alone) (ends : Bool) {blanks : List Char}
    (blank : ∀ c ∈ blanks, isBlank c = true) (unbroken : ends = true → '\n' ∉ blanks) :
    ∃ again, all (blanks ++ spaced (faces ends lexemes)) = (again, []) ∧
      faces ends again = faces ends lexemes ∧
      (blanks ≠ [] → ∃ gap later, again = ⟨.blank, blanks ++ gap⟩ :: later) := by
  have space : ∀ c ∈ [' '], isBlank c = true := List.forall_mem_singleton.2 (by decide)
  have line : ∀ c ∈ [' ', '\n'], isBlank c = true :=
    List.forall_mem_cons.2 ⟨by decide, List.forall_mem_singleton.2 (by decide)⟩
  induction lexemes generalizing ends blanks with
  | nil =>
    cases ends with
    | false =>
      change ∃ again, all (blanks ++ []) = _ ∧ _
      cases blanks with
      | nil => exact ⟨[], all_nil, rfl, by simp⟩
      | cons c blanks =>
        have ended := @all_blank_append (c :: blanks) [] (by simp) blank (by simp)
        rw [all_nil] at ended
        refine ⟨_, ended, rfl, fun _ => ⟨[], [], ?_⟩⟩
        rw [List.append_nil]
    | true =>
      have longer := List.forall_mem_append.2 ⟨blank, line⟩
      have ended := @all_blank_append (blanks ++ [' ', '\n']) [] (by simp) longer (by simp)
      rw [all_nil, List.append_nil] at ended
      exact ⟨_, ended, faces_break rfl (by simp), fun _ => ⟨_, [], rfl⟩⟩
  | cons lexeme lexemes ih =>
    have others : ∀ other ∈ lexemes, other.Alone :=
      fun other member => alone other (List.mem_cons_of_mem _ member)
    cases stands : lexeme.kind? with
    | none =>
      by_cases breaks : (ends && lexeme.text.contains '\n') = true
      · obtain ⟨flag, -⟩ := Bool.and_eq_true_iff.1 breaks
        have longer := List.forall_mem_append.2 ⟨blank, line⟩
        obtain ⟨again, whole, laidOut, first⟩ := ih others false longer (by simp)
        obtain ⟨gap, later, rfl⟩ := first (by simp)
        have written : blanks ++ spaced (lineFace :: faces false lexemes) =
            blanks ++ [' ', '\n'] ++ spaced (faces false lexemes) := by
          simp [spaced_cons, lineFace]
        rw [faces_break stands breaks, written, whole, ← laidOut, List.append_assoc]
        refine ⟨_, rfl, ?_, fun _ => ⟨_, later, rfl⟩⟩
        rw [flag]
        exact faces_break rfl (by simp)
      · rw [faces_none stands breaks]
        exact ih others ends blank unbroken
    | some kind =>
      let token : Token := ⟨kind, String.ofList lexeme.text, .start⟩
      have same (lexemes : List Lexeme) : faces ends (lexeme :: lexemes) =
          token.face :: faces token.mayEndStatement lexemes := faces_of_kind? stands rfl
      have own : lexeme.Alone := alone lexeme List.mem_cons_self
      obtain ⟨again, whole, laidOut, -⟩ :=
        @ih others token.mayEndStatement [] (by simp) (by simp)
      have longer : ∀ c ∈ blanks ++ [' '], isBlank c = true :=
        List.forall_mem_append.2 ⟨blank, space⟩
      have written : blanks ++ spaced (token.face :: faces token.mayEndStatement lexemes) =
          blanks ++ [' '] ++ (lexeme.text ++ spaced (faces token.mayEndStatement lexemes)) := by
        simp [spaced_cons, Token.face, token]
      obtain ⟨c, rest, spelled, visible⟩ := own.head stands
      rw [same, written, all_blank_append (by simp) longer (by simpa [spelled] using visible),
        all_of_next? (next?_spaced own stands _), ← List.nil_append (spaced _), whole]
      refine ⟨_, rfl, ?_, fun _ => ⟨[' '], _, rfl⟩⟩
      rw [← laidOut, ← same again]
      refine faces_none rfl fun breaks => ?_
      obtain ⟨flag, line⟩ := Bool.and_eq_true_iff.1 breaks
      simp [unbroken flag] at line

theorem all_tail_spaced (alone : ∀ lexeme ∈ lexemes, lexeme.Alone) :
    ∃ again, all (spaced (faces false lexemes)).tail = (again, []) ∧
      faces false again = faces false lexemes := by
  obtain ⟨again, whole, laidOut, -⟩ := @all_spaced lexemes alone false [] (by simp) (by simp)
  rw [List.nil_append] at whole
  cases known : faces false lexemes with
  | nil => exact ⟨[], all_nil, rfl⟩
  | cons face rest =>
    rw [known, spaced_cons] at whole
    obtain ⟨stuck, same⟩ :=
      @all_of_blank_cons ' ' (face.2.toList ++ spaced rest) (by decide)
    rw [whole] at stuck same
    rw [known] at laidOut
    refine ⟨_, ?_, same.trans laidOut⟩
    exact Prod.ext rfl stuck

end

end Lexeme

namespace Tokens

variable {text : String} {tokens : Tokens}

/-- The tokens before the end mark written out, with a space between any two -/
def respaced (tokens : Tokens) : String := String.intercalate " " (tokens.body.map Token.text)

/-- The kinds and the texts of the tokens, whatever their places -/
def faces (tokens : Tokens) : List (Token.Kind × String) := tokens.toList.map Token.face

theorem toList_respaced (tokens : Tokens) :
    tokens.respaced.toList = (Lexeme.spaced (tokens.body.map Token.face)).tail := by
  unfold respaced
  cases tokens.body with
  | nil => rfl
  | cons first rest =>
    rw [List.map_cons, toList_intercalate_cons, List.map_cons, Lexeme.spaced_cons, List.tail_cons,
      Lexeme.spaced, List.flatMap_map, List.flatMap_map]
    rfl

theorem ofText_eq_ok_iff : ofText text = .ok tokens ↔ ∃ lexemes,
    Lexeme.all text.toList = (lexemes, []) ∧ tokens = ⟨Lexeme.layOut false .start lexemes,
      .fileEnd (Position.start.after text.toList), rfl⟩ := by
  rw [ofText_eq]
  constructor
  · intro read
    split at read
    · next complete =>
      cases read
      exact ⟨_, by rw [← complete], rfl⟩
    · cases read
  · rintro ⟨lexemes, whole, rfl⟩
    rw [whole]
    simp

/-- Tokens that are written out again with single spaces are the same tokens again. -/
theorem ofText_respaced (read : ofText text = .ok tokens) :
    ∃ again, ofText tokens.respaced = .ok again ∧ again.faces = tokens.faces := by
  obtain ⟨lexemes, whole, rfl⟩ := ofText_eq_ok_iff.1 read
  have alone : ∀ lexeme ∈ lexemes, lexeme.Alone := by
    intro lexeme member
    apply @Lexeme.alone_of_all text.toList
    rwa [whole]
  obtain ⟨again, spaced, laidOut⟩ := Lexeme.all_tail_spaced alone
  have respaced := toList_respaced ⟨Lexeme.layOut false .start lexemes,
    .fileEnd (Position.start.after text.toList), rfl⟩
  rw [Lexeme.map_face_layOut] at respaced
  refine ⟨_, ofText_eq_ok_iff.2 ⟨again, by rw [respaced, spaced], rfl⟩, ?_⟩
  simp only [faces, toList, List.map_append, Lexeme.map_face_layOut, laidOut]
  rfl

/-- A comment that ends a line, a line break inside a literal, and one that ends nothing -/
theorem ofText_respaced_comment : ∃ tokens again,
    ofText "p/*\n*/q+\n\x60r\ns\x60// t\n.5" = .ok tokens ∧
      tokens.respaced = "p \n q + \x60r\ns\x60 \n .5 \n" ∧
      ofText tokens.respaced = .ok again ∧ again.faces = tokens.faces := by
  have whole : Lexeme.all "p/*\n*/q+\n\x60r\ns\x60// t\n.5".toList =
      ([⟨.name, ['p']⟩, ⟨.comment, "/*\n*/".toList⟩, ⟨.name, ['q']⟩, ⟨.operator, ['+']⟩,
        ⟨.blank, ['\n']⟩, ⟨.rawString, "\x60r\ns\x60".toList⟩, ⟨.comment, "// t".toList⟩,
        ⟨.blank, ['\n']⟩, ⟨.number, ".5".toList⟩], []) := by decide +kernel
  have read := ofText_eq_ok_iff.2 ⟨_, whole, rfl⟩
  obtain ⟨again, readAgain, same⟩ := ofText_respaced read
  exact ⟨_, again, read, by decide +kernel, readAgain, same⟩

end Tokens

end GoDto
