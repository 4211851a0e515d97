import GoDto.Proofs.LexemeForm
import Mathlib.Data.List.Basic

/-!
Lexemes at the end of a text. A blank character that is put behind a whole text leaves every lexeme
before it as it was, except that it goes on with a blank, and with a comment that only a line break
ends.
-/

namespace GoDto

open Unicode

namespace Lexeme

/-- Puts more text behind the rest. -/
def Split.extend (split : Split) (more : List Char) : Split := ⟨split.front, split.rest ++ more⟩

@[simp]
theorem Split.extend_after (split : Split) (opening more : List Char) :
    (split.after opening).extend more = (split.extend more).after opening := rfl

variable {text more : List Char} {split : Split} {gap : Char}

theorem run_append {test : Char → Bool} (stops : test gap = false) :
    Split.run test (text ++ gap :: more) = (Split.run test text).extend (gap :: more) := by
  induction text with
  | nil => simp [Split.run, Split.extend, stops]
  | cons c text ih =>
    simp only [Split.run, Split.extend, Split.mk.injEq] at ih
    by_cases passes : test c = true
    · simp [Split.run, Split.extend, passes, ih.1, ih.2]
    · simp [Split.run, Split.extend, passes]

theorem run_append_of_stopped {test : Char → Bool} (stopped : (Split.run test text).rest ≠ []) :
    Split.run test (text ++ more) = (Split.run test text).extend more := by
  induction text with
  | nil => exact absurd rfl stopped
  | cons c text ih =>
    by_cases passes : test c = true
    · have later := ih (by simpa [Split.run, passes] using stopped)
      simp only [Split.run, Split.extend, Split.mk.injEq] at later
      simp [Split.run, Split.extend, passes, later.1, later.2]
    · simp [Split.run, Split.extend, passes]

theorem closeComment_append (found : closeComment text = some split) :
    closeComment (text ++ more) = some (split.extend more) := by
  fun_induction closeComment text generalizing split with
  | case1 => cases found
  | case2 rest =>
    cases found
    rfl
  | case3 c rest other ih =>
    obtain ⟨inner, closed, rfl⟩ := Option.map_eq_some_iff.1 found
    have later := ih closed
    cases rest with
    | nil => cases closed
    | cons d rest =>
      rw [List.cons_append, List.cons_append, closeComment]
      · rw [← List.cons_append, later]
        rfl
      · rintro more rfl same
        cases same
        exact other rest rfl rfl

theorem closeLiteral_append {mark : Char} (plain : mark ≠ '\\')
    (found : closeLiteral mark text = some split) :
    closeLiteral mark (text ++ more) = some (split.extend more) := by
  fun_induction closeLiteral mark text generalizing split with
  | case1 => cases found
  | case2 => cases found
  | case3 c rest visible ih =>
    obtain ⟨inner, closed, rfl⟩ := Option.map_eq_some_iff.1 found
    simp [closeLiteral, visible, ih closed]
  | case4 rest other =>
    cases found
    rw [List.cons_append, closeLiteral]
    · rw [if_pos rfl]
      rfl
    · intro _ _ same
      exact absurd same plain
  | case5 => cases found
  | case6 c rest other differs visible ih =>
    obtain ⟨inner, closed, rfl⟩ := Option.map_eq_some_iff.1 found
    rw [List.cons_append, closeLiteral]
    · rw [if_neg differs, if_neg visible, ih closed]
      rfl
    · intro _ _ same
      exact absurd (.inr same) visible

theorem closeRaw_append (found : closeRaw text = some split) :
    closeRaw (text ++ more) = some (split.extend more) := by
  fun_induction closeRaw text generalizing split with
  | case1 => cases found
  | case2 rest =>
    cases found
    simp [closeRaw, Split.extend]
  | case3 c rest other ih =>
    obtain ⟨inner, closed, rfl⟩ := Option.map_eq_some_iff.1 found
    simp [closeRaw, other, ih closed]

theorem isNumberPart_of_isExponentMark {c : Char} (mark : isExponentMark c = true) :
    isNumberPart c = true := by
  simp only [isExponentMark, Bool.or_eq_true, beq_iff_eq] at mark
  rcases mark with ((rfl | rfl) | rfl) | rfl <;> decide

variable (blank : isBlank gap = true)
include blank

theorem numberRest_gap : numberRest (gap :: more) = ⟨[], gap :: more⟩ := by
  have part := isNumberPart_of_isBlank blank
  have mark : isExponentMark gap = false := by
    rw [Bool.eq_false_iff]
    intro mark
    simp [isNumberPart_of_isExponentMark mark] at part
  cases more <;> simp [numberRest, part, mark]

theorem numberRest_append :
    numberRest (text ++ gap :: more) = (numberRest text).extend (gap :: more) := by
  have sign : isSign gap = false := by
    have plus : gap ≠ '+' := ne_of_class blank (by decide)
    have minus : gap ≠ '-' := ne_of_class blank (by decide)
    simp [isSign, plus, minus]
  fun_induction numberRest text with
  | case1 => exact numberRest_gap blank
  | case2 c part =>
    have alone := @numberRest_gap more gap blank
    simp [numberRest, sign, part, alone, Split.extend, Split.after]
  | case3 c part => simp [numberRest, sign, part, Split.extend]
  | case4 c next rest signed ih =>
    rw [List.cons_append, List.cons_append, numberRest, if_pos signed, ih, Split.extend_after]
  | case5 c next rest signed part ih =>
    rw [List.cons_append, List.cons_append, numberRest, if_neg signed, if_pos part]
    rw [← List.cons_append, ih, Split.extend_after]
  | case6 c next rest signed part =>
    rw [List.cons_append, List.cons_append, numberRest, if_neg signed, if_neg part]
    rfl

omit blank in
theorem strip?_append {spelling : List Char} (outside : gap ∉ spelling) :
    strip? spelling (text ++ gap :: more) = (strip? spelling text).map (· ++ gap :: more) := by
  fun_induction strip? spelling text with
  | case1 => rfl
  | case2 c spelling =>
    have differs : c ≠ gap := fun same => outside (same ▸ List.mem_cons_self)
    simp [strip?, differs]
  | case3 c spelling text ih =>
    have later := ih fun member => outside (List.mem_cons_of_mem _ member)
    simp [strip?, later]
  | case4 c spelling d text differs => simp [strip?, differs]

theorem nextOperator?_append :
    nextOperator? (text ++ gap :: more) = (nextOperator? text).map (·.extend (gap :: more)) := by
  have blankless : ∀ spelling ∈ operators, spelling.toList.all fun c => !isBlank c := by decide
  have outside : ∀ spelling ∈ operators, gap ∉ spelling.toList := by
    intro spelling listed member
    simpa [blank] using List.all_eq_true.1 (blankless spelling listed) gap member
  unfold nextOperator?
  rw [List.map_findSome?, ← List.head?_filterMap, ← List.head?_filterMap]
  congr 1
  apply List.filterMap_congr
  intro spelling listed
  rw [strip?_append (outside spelling listed), Option.map_map, Function.comp_apply, Option.map_map]
  rfl

/-- The lexeme at the front of a text that starts with no comment and no literal -/
def cutPlain? (c : Char) (rest : List Char) : Option (Shape × Split) :=
  if startsNumber c rest then some (.number, (numberRest rest).after [c])
  else if startsName c then some (.name, (Split.run isNamePart rest).after [c])
  else if isBlank c then some (.blank, (Split.run isBlank rest).after [c])
  else (nextOperator? (c :: rest)).map fun split => (.operator, split)

omit blank in
theorem cut?_of_plain {c : Char} {rest : List Char} (raw : c ≠ '\x60') (string : c ≠ '"')
    (rune : c ≠ '\'') (comment : c = '/' → ∀ d ∈ rest.head?, d ≠ '/' ∧ d ≠ '*') :
    cut? (c :: rest) = cutPlain? c rest := by
  rw [cut?]
  · rfl
  · rintro more rfl rfl
    exact (comment rfl '/' rfl).1 rfl
  · rintro more rfl rfl
    exact (comment rfl '*' rfl).2 rfl
  · exact raw
  · exact string
  · exact rune

theorem cutPlain?_append {c : Char} {shape : Shape} (found : cutPlain? c text = some (shape, split))
    (goesOn : shape = .blank → split.rest ≠ []) :
    cutPlain? c (text ++ gap :: more) = some (shape, split.extend (gap :: more)) := by
  have number : startsNumber c (text ++ gap :: more) = startsNumber c text := by
    cases text with
    | nil => simp [startsNumber, isDigit_of_isBlank blank]
    | cons d text => rfl
  unfold cutPlain? at found ⊢
  rw [number]
  split at found
  · next starts =>
    cases found
    rw [if_pos starts, numberRest_append blank]
    rfl
  split at found
  · next other starts =>
    cases found
    rw [if_neg other, if_pos starts, run_append (isNamePart_of_isBlank blank)]
    rfl
  split at found
  · next other nameless starts =>
    cases found
    rw [if_neg other, if_neg nameless, if_pos starts, run_append_of_stopped (goesOn rfl)]
    rfl
  · next other nameless visible =>
    obtain ⟨inner, cut, same⟩ := Option.map_eq_some_iff.1 found
    cases same
    rw [if_neg other, if_neg nameless, if_neg visible, ← List.cons_append,
      nextOperator?_append blank, cut]
    rfl

omit blank in
/-- What closes a comment or a literal closes it in front of more text, too. -/
theorem delimited_append {close : List Char → Option Split} {own shape : Shape}
    {opening : List Char}
    (closes : ∀ inner, close text = some inner → close (text ++ more) = some (inner.extend more))
    (found : ((close text).map fun inner => (own, inner.after opening)) = some (shape, split)) :
    ((close (text ++ more)).map fun inner => (own, inner.after opening)) =
      some (shape, split.extend more) := by
  obtain ⟨inner, closed, same⟩ := Option.map_eq_some_iff.1 found
  cases same
  rw [closes inner closed]
  rfl

/-- A blank character behind a text leaves the first lexeme as it was, unless that is a blank that
reaches to the end or a comment that only a line break ends. -/
theorem cut?_append {shape : Shape} (found : cut? text = some (shape, split))
    (goesOn : shape = .blank → split.rest ≠ []) (breaks : shape = .comment → gap = '\n') :
    cut? (text ++ gap :: more) = some (shape, split.extend (gap :: more)) := by
  unfold cut? at found
  split at found
  · cases found
  · cases found
    obtain rfl := breaks rfl
    simp only [List.cons_append, cut?]
    rw [run_append (by decide)]
    rfl
  · simp only [List.cons_append, cut?]
    exact delimited_append (fun _ => closeComment_append) found
  · simp only [List.cons_append, cut?]
    exact delimited_append (fun _ => closeRaw_append) found
  · simp only [List.cons_append, cut?]
    exact delimited_append (fun _ => closeLiteral_append (by decide)) found
  · simp only [List.cons_append, cut?]
    exact delimited_append (fun _ => closeLiteral_append (by decide)) found
  · next c rest line block raw string rune =>
    have comment : c = '/' → ∀ d ∈ (rest ++ gap :: more).head?, d ≠ '/' ∧ d ≠ '*' := by
      intro slash d first
      cases rest with
      | nil =>
        obtain rfl : gap = d := by simpa using first
        exact ⟨ne_of_class blank (by decide), ne_of_class blank (by decide)⟩
      | cons e rest =>
        obtain rfl : e = d := by simpa using first
        exact ⟨fun same => line rest slash (by rw [same]), fun same => block rest slash (by rw [same])⟩
    rw [List.cons_append, cut?_of_plain raw string rune comment]
    exact cutPlain?_append blank found goesOn

omit blank in
theorem run_append_of_through {test : Char → Bool} (through : (Split.run test text).rest = []) :
    Split.run test (text ++ more) = (Split.run test more).after text := by
  induction text with
  | nil => rfl
  | cons c text ih =>
    by_cases passes : test c = true
    · have later := ih (by simpa [Split.run, passes] using through)
      simp only [Split.run, Split.after, Split.mk.injEq] at later
      simp [Split.run, Split.after, passes, later.1, later.2]
    · simp [Split.run, passes] at through

theorem cut?_of_blank : cut? (gap :: more) = some (.blank, Split.run isBlank (gap :: more)) := by
  have slash : gap ≠ '/' := ne_of_class blank (by decide)
  have dot : gap ≠ '.' := ne_of_class blank (by decide)
  rw [cut?_of_plain (ne_of_class blank (by decide)) (ne_of_class blank (by decide))
    (ne_of_class blank (by decide)) fun same => absurd same slash]
  simp [cutPlain?, startsNumber, isDigit_of_isBlank blank, dot, startsName_of_isBlank blank, blank, Split.run,
    Split.after]

omit blank in
/-- A blank is as long as it can be. -/
theorem run_of_cut? (found : cut? text = some (.blank, split)) :
    ∃ c rest, text = c :: rest ∧ isBlank c = true ∧ Split.run isBlank text = split := by
  obtain ⟨nonempty, blanks⟩ := formed_of_cut? found
  obtain ⟨rfl, -⟩ := cut?_eq_some found
  obtain ⟨c, front, same⟩ := List.exists_cons_of_ne_nil nonempty
  simp only at same
  have blank : isBlank c = true := blanks c (by simp [same])
  refine ⟨c, front ++ split.rest, by simp [Split.whole, same], blank, ?_⟩
  rw [Split.whole, same, List.cons_append, cut?_of_blank blank] at found
  rw [Split.whole, same, List.cons_append]
  exact congrArg Prod.snd (Option.some.inj found)

omit blank in
theorem all_of_next? {lexeme : Lexeme} {rest : List Char} (found : next? text = some (lexeme, rest)) :
    all text = (lexeme :: (all rest).1, (all rest).2) := by
  rw [all]
  split
  · next none => simp [found] at none
  · next some =>
    rw [found] at some
    cases some
    rfl

omit blank in
/-- A blank that reaches to the end of a text takes in the blanks behind it. -/
theorem next?_of_through (found : cut? text = some (.blank, split)) (ended : split.rest = []) :
    next? (text ++ more) = some (⟨.blank, split.front ++ (Split.run isBlank more).front⟩,
      (Split.run isBlank more).rest) := by
  obtain ⟨c, rest, rfl, starts, run⟩ := run_of_cut? found
  have longer : Split.run isBlank (c :: rest ++ more) =
      (Split.run isBlank more).after (c :: rest) :=
    run_append_of_through (by rw [run, ended])
  have taken : split.front = c :: rest := by
    have whole := (cut?_eq_some found).1
    rwa [Split.whole, ended, List.append_nil] at whole
  rw [next?, List.cons_append, cut?_of_blank starts, ← List.cons_append, longer, taken]
  rfl

omit blank in
/-- A line break behind a text starts a blank there, or lengthens the one at the end. -/
theorem all_append_line {lexemes : List Lexeme} (whole : all text = (lexemes, [])) :
    ∃ front last, (lexemes = front ∧ last = [] ∨ lexemes = front ++ [⟨.blank, last⟩]) ∧ ∀ more,
      all (text ++ '\n' :: more) =
        (front ++ ⟨.blank, last ++ (Split.run isBlank ('\n' :: more)).front⟩ ::
          (all (Split.run isBlank ('\n' :: more)).rest).1,
          (all (Split.run isBlank ('\n' :: more)).rest).2) := by
  have line : isBlank '\n' = true := by decide
  fun_induction all text generalizing lexemes with
  | case1 text none =>
    cases whole
    refine ⟨[], [], .inl ⟨rfl, rfl⟩, fun more => all_of_next? ?_⟩
    simp [next?, cut?_of_blank line]
  | case2 text lexeme rest found _ later stuck same ih =>
    cases whole
    obtain ⟨⟨shape, split⟩, cut, cutSame⟩ := Option.map_eq_some_iff.1 found
    cases cutSame
    by_cases through : shape = .blank ∧ split.rest = []
    · obtain ⟨rfl, ended⟩ := through
      have nothing : later = [] := by
        rw [ended, all] at same
        simpa [next?, cut?] using (congrArg Prod.fst same).symm
      subst nothing
      exact ⟨[], split.front, .inr rfl, fun more => all_of_next? (next?_of_through cut ended)⟩
    · have appended : ∀ more, next? (text ++ '\n' :: more) =
          some (⟨shape, split.front⟩, split.rest ++ '\n' :: more) := by
        intro more
        rw [next?, cut?_append line cut (fun isBlank ended => through ⟨isBlank, ended⟩) fun _ => rfl]
        rfl
      obtain ⟨front, last, reached, seam⟩ := ih same
      refine ⟨⟨shape, split.front⟩ :: front, last, ?_, fun more => ?_⟩
      · rcases reached with ⟨rfl, rfl⟩ | rfl
        · exact .inl ⟨rfl, rfl⟩
        · exact .inr rfl
      · rw [all_of_next? (appended more), seam more]
        rfl

end Lexeme

end GoDto
