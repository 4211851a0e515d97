import GoDto.Unicode.LowerCase

/-!
What never comes out of lower case. All capitals have their small letters above the backtick, so a
text in lower case can stand between backticks if it could before.
-/

namespace GoDto.Unicode

/-- A code point that is no character stands for the null character. -/
theorem toNat_ofNat {point : Nat} (other : Char.ofNat point ≠ '\x00') :
    (Char.ofNat point).toNat = point := by
  by_cases valid : point.isValidChar
  · rw [Char.ofNat, dif_pos valid]
    rfl
  · exfalso
    apply other
    rw [Char.ofNat, dif_neg valid]
    rfl

theorem lowerPoint_ne {point : Nat} (other : point ≠ 0x60) : lowerPoint point ≠ 0x60 := by
  have above : ∀ run ∈ caseRuns, 0x60 < run.target := by decide +kernel
  unfold lowerPoint
  cases found : caseRuns.findSome? fun run => run.lower? point with
  | none => exact other
  | some target =>
    obtain ⟨run, listed, lower⟩ := List.exists_of_findSome?_eq_some found
    have high := above run listed
    unfold CaseRun.lower? at lower
    split at lower
    · cases lower
      simp only [Option.getD_some]
      omega
    · cases lower

theorem backtick_not_mem_lowerAt {c : Char} (other : c ≠ '\x60') (before after : List Char) :
    '\x60' ∉ lowerAt before c after := by
  unfold lowerAt
  split
  · split <;> decide
  · split
    · decide
    · intro member
      have point : c.toNat ≠ 0x60 := fun same => other (Char.toNat_inj.1 same)
      have same := List.mem_singleton.1 member
      have valid : Char.ofNat (lowerPoint c.toNat) ≠ '\x00' := by
        rw [← same]
        decide
      have lower := toNat_ofNat valid
      rw [← same] at lower
      exact lowerPoint_ne point lower.symm

/-- No character has a lower case with a backtick in it but the backtick. -/
theorem backtick_not_mem_lowerCase {text : String} (absent : '\x60' ∉ text.toList) :
    '\x60' ∉ (lowerCase text).toList := by
  have inside (before rest : List Char) (absent : '\x60' ∉ rest) : '\x60' ∉ lowerFrom before rest := by
    induction rest generalizing before with
    | nil => simp [lowerFrom]
    | cons c rest ih =>
      rw [List.mem_cons, not_or] at absent
      rw [lowerFrom, List.mem_append, not_or]
      exact ⟨backtick_not_mem_lowerAt (Ne.symm absent.1) before rest, ih _ absent.2⟩
  rw [lowerCase, String.toList_ofList]
  exact inside [] text.toList absent

end GoDto.Unicode
