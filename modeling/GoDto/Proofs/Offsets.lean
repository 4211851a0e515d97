import GoDto.Source.Position
import Mathlib.Data.List.Induction

/-!
Places in a text and offsets into its bytes. A place tells how many line breaks are before it and how
many bytes are behind the last of them, so every offset has a place of its own.
-/

namespace GoDto

/-- The bytes of a text, as a list -/
def bytes (text : String) : List UInt8 := text.toByteArray.data.toList

/-- The bytes that encode characters -/
def utf8 (text : List Char) : List UInt8 := text.flatMap String.utf8EncodeChar

/-- How many bytes encode characters -/
def byteSize (text : List Char) : Nat := (String.ofList text).utf8ByteSize

/-- The byte of a line break -/
def lineByte : UInt8 := 10

namespace Position

/-- The place that bytes from the start of a text lead to -/
def behind (bytes : List UInt8) : Position :=
  ⟨1 + bytes.count lineByte, 1 + (bytes.reverse.takeWhile (· != lineByte)).length⟩

/-- The place of a byte offset -/
def ofOffset (text : String) (offset : Nat) : Position :=
  behind ((bytes text).take offset)

/-- Whether a place is on an earlier line than another one, or on the same line and to the left of it -/
def Before (first second : Position) : Prop :=
  first.line < second.line ∨ first.line = second.line ∧ first.column < second.column

/-- Whether a place is that of an offset, and of no other one -/
structure Denotes (position : Position) (text : String) (offset : Nat) : Prop where
  inside : offset ≤ text.utf8ByteSize
  place : position = ofOffset text offset
  only : ∀ other ≤ text.utf8ByteSize, position = ofOffset text other → other = offset

end Position

theorem utf8_append (first second : List Char) : utf8 (first ++ second) = utf8 first ++ utf8 second :=
  List.flatMap_append

theorem length_bytes (text : String) : (bytes text).length = text.utf8ByteSize := rfl

theorem bytes_eq_utf8 (text : String) : bytes text = utf8 text.toList := by
  rw [bytes, ← String.utf8Encode_toList, List.utf8Encode, List.toList_data_toByteArray, utf8]

theorem byteSize_eq_length (text : List Char) : byteSize text = (utf8 text).length := by
  have encoded := bytes_eq_utf8 (String.ofList text)
  rw [String.toList_ofList] at encoded
  rw [← encoded, length_bytes, byteSize]

theorem byteSize_toList (text : String) : byteSize text.toList = text.utf8ByteSize := by
  rw [byteSize, String.ofList_toList]

theorem byteSize_append (first second : List Char) :
    byteSize (first ++ second) = byteSize first + byteSize second := by
  simp only [byteSize_eq_length, utf8_append, List.length_append]

theorem byteSize_pos {text : List Char} (nonempty : text ≠ []) : 0 < byteSize text := by
  cases text with
  | nil => exact absurd rfl nonempty
  | cons c text =>
    have first := c.utf8Size_pos
    rw [byteSize_eq_length, utf8, List.flatMap_cons, List.length_append, String.length_utf8EncodeChar]
    omega

/-- Where a text is cut is known by the number of bytes before the cut. -/
theorem eq_of_byteSize {front rest other more : List Char} (whole : front ++ rest = other ++ more)
    (same : byteSize front = byteSize other) : front = other ∧ rest = more := by
  have extended {short long behind : List Char} (longer : long = short ++ behind)
      (same : byteSize short = byteSize long) : behind = [] := by
    by_contra nonempty
    have positive := byteSize_pos nonempty
    rw [longer, byteSize_append] at same
    omega
  rcases List.append_eq_append_iff.1 whole with ⟨behind, longer, rests⟩ | ⟨behind, longer, rests⟩
  · obtain rfl := extended longer same
    exact ⟨by simpa using longer.symm, by simpa using rests⟩
  · obtain rfl := extended longer same.symm
    exact ⟨by simpa using longer, by simpa using rests.symm⟩

theorem lineByte_of_line : String.utf8EncodeChar '\n' = [lineByte] := by
  decide

/-- The bytes of a longer character are all above those of the short ones. -/
theorem le_toNat_of_long {c : Char} (long : 127 < c.toNat) :
    ∀ byte ∈ String.utf8EncodeChar c, 128 ≤ byte.toNat := by
  simp only [Char.toNat] at long
  simp only [String.utf8EncodeChar]
  rw [if_neg (by omega)]
  repeat' split
  all_goals
    simp only [List.forall_mem_cons, List.not_mem_nil, UInt8.toNat_ofNat', false_implies,
      implies_true, and_true]
    omega

theorem lineByte_not_mem {c : Char} (other : c ≠ '\n') : lineByte ∉ String.utf8EncodeChar c := by
  intro member
  by_cases long : 127 < c.toNat
  · exact absurd (le_toNat_of_long long lineByte member) (by decide)
  · simp only [Char.toNat] at long
    simp only [String.utf8EncodeChar] at member
    rw [if_pos (by omega), List.mem_singleton] at member
    have bytes := congrArg UInt8.toNat member
    rw [UInt8.toNat_ofNat'] at bytes
    apply other
    apply Char.ext
    apply UInt32.toNat_inj.1
    change 10 = c.val.toNat % 256 at bytes
    change c.val.toNat = 10
    omega

namespace Position

theorem Before.ne {first second : Position} (before : first.Before second) : first ≠ second := by
  rintro rfl
  rcases before with line | ⟨-, column⟩
  · exact Nat.lt_irrefl _ line
  · exact Nat.lt_irrefl _ column

theorem behind_append_of_line (bytes : List UInt8) :
    behind (bytes ++ [lineByte]) = ⟨(behind bytes).line + 1, 1⟩ := by
  simp [behind, Nat.add_assoc]

theorem behind_append {more : List UInt8} (unbroken : lineByte ∉ more) (bytes : List UInt8) :
    behind (bytes ++ more) = ⟨(behind bytes).line, (behind bytes).column + more.length⟩ := by
  have other : ∀ byte ∈ more.reverse, (byte != lineByte) = true := by
    intro byte member
    rw [bne_iff_ne]
    rintro rfl
    exact unbroken (List.mem_reverse.1 member)
  simp only [behind, List.count_append, List.count_eq_zero_of_not_mem unbroken, List.reverse_append,
    List.takeWhile_append_of_pos other, List.length_append, List.length_reverse, Nat.add_zero,
    mk.injEq, true_and]
  omega

/-- Reading characters leads to the place behind their bytes. -/
theorem after_eq_behind (text : List Char) : start.after text = behind (utf8 text) := by
  induction text using List.reverseRecOn with
  | nil => rfl
  | append_singleton text c ih =>
    rw [after_append, ih, utf8_append, after_cons, after_nil, advance]
    have single : utf8 [c] = String.utf8EncodeChar c := List.append_nil _
    rw [single]
    split
    · next line =>
      rw [line, lineByte_of_line, behind_append_of_line]
    · next other =>
      rw [behind_append (lineByte_not_mem other), String.length_utf8EncodeChar]

/-- More bytes lead further, to a later line or further to the right. -/
theorem before_behind {more : List UInt8} (nonempty : more ≠ []) (bytes : List UInt8) :
    (behind bytes).Before (behind (bytes ++ more)) := by
  by_cases broken : lineByte ∈ more
  · left
    have counted := List.count_pos_iff.2 broken
    simp only [behind, List.count_append]
    omega
  · right
    have positive := List.length_pos_iff.2 nonempty
    rw [behind_append broken]
    exact ⟨rfl, Nat.lt_add_of_pos_right positive⟩

theorem before_ofOffset {text : String} {first second : Nat} (ordered : first < second)
    (inside : second ≤ text.utf8ByteSize) : (ofOffset text first).Before (ofOffset text second) := by
  have longer : (bytes text).take second =
      (bytes text).take first ++ ((bytes text).drop first).take (second - first) := by
    rw [← List.take_add, Nat.add_sub_cancel' (Nat.le_of_lt ordered)]
  rw [ofOffset, ofOffset, longer]
  apply before_behind
  rw [← List.length_pos_iff, List.length_take, List.length_drop, length_bytes]
  omega

/-- The place behind characters that a text starts with is that of the offset behind their bytes. -/
theorem denotes_of_append {text : String} {front rest : List Char} (whole : text.toList = front ++ rest) :
    (start.after front).Denotes text (byteSize front) := by
  have inside : byteSize front ≤ text.utf8ByteSize := by
    rw [← byteSize_toList, whole, byteSize_append]
    exact Nat.le_add_right _ _
  have place : start.after front = ofOffset text (byteSize front) := by
    rw [after_eq_behind, ofOffset, byteSize_eq_length, bytes_eq_utf8, whole, utf8_append,
      List.take_left]
  refine ⟨inside, place, fun other within same => ?_⟩
  rw [place] at same
  rcases Nat.lt_trichotomy other (byteSize front) with before | here | behind
  · exact absurd same.symm (before_ofOffset before inside).ne
  · exact here
  · exact absurd same (before_ofOffset behind within).ne

end Position

end GoDto
