import GoDto.Token.Lexeme

/-!
Character classes that share no character. That two sets of ranges are apart is found out in one
pass over the tables.
-/

set_option maxRecDepth 8000

namespace GoDto

namespace Unicode

/-- No range of the first set meets a range of the second. Both ascend, so what lies below a range
of the first set lies below all later ones. -/
def Ranges.apart : Ranges → Ranges → Bool
  | [], _ => true
  | (first, last) :: rest, others =>
    match others.dropWhile (·.2 < first) with
    | [] => true
    | (other, bound) :: more => last < other && Ranges.apart rest ((other, bound) :: more)

/-- Ranges below a point may be passed over. -/
theorem Ranges.has_dropWhile {ranges : Ranges} {first point : Nat} (above : first ≤ point)
    (inside : ranges.has point = true) : Ranges.has (ranges.dropWhile (·.2 < first)) point = true := by
  induction ranges with
  | nil => cases inside
  | cons range ranges ih =>
    by_cases below : range.2 < first
    · rw [List.dropWhile_cons_of_pos (by simpa using below)]
      obtain ⟨low, high⟩ := range
      unfold Ranges.has at inside
      split at inside
      · cases inside
      · rw [if_neg (by omega)] at inside
        exact ih inside
    · rwa [List.dropWhile_cons_of_neg (by simpa using below)]

theorem Ranges.not_has_of_apart {ranges others : Ranges} {point : Nat}
    (apart : ranges.apart others = true) (inside : ranges.has point = true) :
    others.has point = false := by
  rw [Bool.eq_false_iff]
  intro also
  induction ranges generalizing others with
  | nil => cases inside
  | cons range rest ih =>
    obtain ⟨first, last⟩ := range
    unfold Ranges.has at inside
    split at inside
    · cases inside
    · next above =>
      have kept := has_dropWhile (Nat.le_of_not_lt above) also
      unfold Ranges.apart at apart
      split at apart
      · next none =>
        rw [none] at kept
        cases kept
      · next other bound more some =>
        rw [some] at kept
        simp only [Bool.and_eq_true, decide_eq_true_eq] at apart
        split at inside
        · -- The point lies in a range that ends before the other set goes on.
          unfold Ranges.has at kept
          rw [if_pos (by omega)] at kept
          cases kept
        · exact ih apart.2 inside kept

variable {c : Char}

theorem isDigit_of_isLetter (letter : isLetter c = true) : isDigit c = false :=
  Ranges.not_has_of_apart (by decide : letters.apart digits) letter

theorem isLetter_of_isBlank (blank : isBlank c = true) : isLetter c = false :=
  Ranges.not_has_of_apart (by decide : blanks.apart letters) blank

theorem isDigit_of_isBlank (blank : isBlank c = true) : isDigit c = false :=
  Ranges.not_has_of_apart (by decide : blanks.apart digits) blank

theorem isWord_of_isBlank (blank : isBlank c = true) : isWord c = false := by
  have joins : joiners.has c.toNat = false :=
    Ranges.not_has_of_apart (by decide : blanks.apart joiners) blank
  simp [isWord, isLetter_of_isBlank blank, isDigit_of_isBlank blank, joins]

end Unicode

namespace Lexeme

open Unicode

variable {c : Char}

/-- A character that differs from each listed one, because these are not of its class -/
theorem ne_of_class {test : Char → Bool} {other : Char} (passes : test c = true)
    (fails : test other = false) : c ≠ other := by
  intro same
  subst same
  simp [passes] at fails

theorem startsName_of_isBlank (blank : isBlank c = true) : startsName c = false := by
  have underscore : c ≠ '_' := ne_of_class blank (by decide)
  simp [startsName, isLetter_of_isBlank blank, underscore]

theorem isNamePart_of_isBlank (blank : isBlank c = true) : isNamePart c = false := by
  have underscore : c ≠ '_' := ne_of_class blank (by decide)
  simp [isNamePart, isLetter_of_isBlank blank, isDigit_of_isBlank blank, underscore]

theorem isNumberPart_of_isBlank (blank : isBlank c = true) : isNumberPart c = false := by
  have dot : c ≠ '.' := ne_of_class blank (by decide)
  simp [isNumberPart, isWord_of_isBlank blank, dot]

theorem isDigit_of_startsName (starts : startsName c = true) : isDigit c = false := by
  simp only [startsName, Bool.or_eq_true, beq_iff_eq] at starts
  rcases starts with letter | rfl
  · exact isDigit_of_isLetter letter
  · decide

theorem isNamePart_of_startsName (starts : startsName c = true) : isNamePart c = true := by
  simp only [startsName, isNamePart, Bool.or_eq_true] at starts ⊢
  exact .inl starts

end Lexeme

end GoDto
