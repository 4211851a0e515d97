import GoDto.Token.Lexeme
import Mathlib.Data.List.Basic
import Mathlib.Data.List.Flatten

/-!
Patterns like those of regular expressions. A pattern may match the front of a text in several ways,
which come in the order in which a backtracking search finds them, and the first of them counts. No
pattern looks beyond what it matches, so a text may be cut behind that.
-/

namespace GoDto

inductive Pattern where
  | nothing
  /-- A character that passes the test -/
  | one (test : Char → Bool)
  | both (first second : Pattern)
  /-- One of two patterns, by preference the first one -/
  | either (first second : Pattern)
  /-- Any number of rounds, by preference many -/
  | many (inner : Pattern)
  /-- Any number of rounds, by preference few -/
  | few (inner : Pattern)

namespace Pattern

section
variable (inner : List Char → List Nat) (greedy : Bool)

/-- The ways to match one round after another, none of them empty, at most so many of them -/
def rounds : Nat → List Char → List Nat
  | 0, _ => [0]
  | limit + 1, text =>
    let further := ((inner text).filter (0 < ·)).flatMap fun first =>
      (rounds limit (text.drop first)).map (first + ·)
    if greedy then further ++ [0] else 0 :: further

end

/-- How many characters are matched at the front of a text, way by way. A text cannot be matched in
more rounds than it has characters. -/
def ways : Pattern → List Char → List Nat
  | nothing, _ => [0]
  | one _, [] => []
  | one test, c :: _ => if test c then [1] else []
  | both first second, text =>
    (first.ways text).flatMap fun length => (second.ways (text.drop length)).map (length + ·)
  | either first second, text => first.ways text ++ second.ways text
  | many inner, text => rounds inner.ways true text.length text
  | few inner, text => rounds inner.ways false text.length text

def first? (pattern : Pattern) (text : List Char) : Option Nat := (pattern.ways text).head?

/-- The characters one after another -/
def spelled : List Char → Pattern
  | [] => nothing
  | c :: rest => both (one (· == c)) (spelled rest)

/-- One of several spellings, by preference the first one -/
def anyOf : List String → Pattern
  | [] => one fun _ => false
  | text :: rest => either (spelled text.toList) (anyOf rest)

section
variable {text : List Char} {length : Nat}

/-- What is left within a bound of lengths that are put together -/
theorem filter_flatMap_le {lengths : List Nat} {within beyond : Nat → List Nat} {bound : Nat}
    (same : ∀ first ∈ lengths, first ≤ bound →
      within first = (beyond first).filter (· ≤ bound - first)) :
    (lengths.filter (· ≤ bound)).flatMap (fun first => (within first).map (first + ·)) =
      (lengths.flatMap fun first => (beyond first).map (first + ·)).filter (· ≤ bound) := by
  induction lengths with
  | nil => rfl
  | cons first lengths ih =>
    rw [List.flatMap_cons, List.filter_append, ← ih fun other member => same other (by simp [member]),
      List.filter_map]
    by_cases inside : first ≤ bound
    · have bounds : ((fun total => decide (total ≤ bound)) ∘ (first + ·)) =
          fun second => decide (second ≤ bound - first) := by
        funext second
        rw [Function.comp_apply, decide_eq_decide]
        omega
      rw [List.filter_cons_of_pos (by simpa using inside), List.flatMap_cons,
        same first List.mem_cons_self inside, bounds]
    · have outside : (beyond first).filter ((fun total => decide (total ≤ bound)) ∘ (first + ·)) = [] := by
        apply List.filter_eq_nil_iff.2
        intro second _
        rw [Function.comp_apply, decide_eq_true_eq]
        omega
      rw [List.filter_cons_of_neg (by simpa using inside), outside]
      rfl

section
variable {inner : List Char → List Nat} {greedy : Bool} {bound : Nat}

/-- No round matches in an empty text. -/
theorem filter_pos_of_stable
    (stable : ∀ text bound, inner (text.take bound) = (inner text).filter (· ≤ bound)) :
    (inner []).filter (0 < ·) = [] := by
  have none := stable [] 0
  rw [List.take_nil] at none
  apply List.filter_eq_nil_iff.2
  intro length member
  rw [none, List.mem_filter] at member
  have zero : length ≤ 0 := by simpa using member.2
  simpa using zero

theorem rounds_nil (none : (inner []).filter (0 < ·) = []) (limit : Nat) :
    rounds inner greedy limit [] = [0] := by
  cases limit with
  | zero => rfl
  | succ limit => simp [rounds, none]

/-- Rounds in the front part of a text are those in the whole text that stay there. -/
theorem rounds_take (stable : ∀ text bound, inner (text.take bound) = (inner text).filter (· ≤ bound))
    (limit larger : Nat) (enough : (text.take bound).length ≤ limit) (enoughLarger : text.length ≤ larger) :
    rounds inner greedy limit (text.take bound) =
      (rounds inner greedy larger text).filter (· ≤ bound) := by
  have none := filter_pos_of_stable stable
  induction larger generalizing limit text bound with
  | zero =>
    obtain rfl := List.length_eq_zero_iff.1 (Nat.le_zero.1 enoughLarger)
    rw [List.take_nil, rounds_nil none]
    rfl
  | succ larger ih =>
    have further : (((inner (text.take bound)).filter (0 < ·)).flatMap fun first =>
        (rounds inner greedy (limit - 1) ((text.take bound).drop first)).map (first + ·)) =
        (((inner text).filter (0 < ·)).flatMap fun first =>
          (rounds inner greedy larger (text.drop first)).map (first + ·)).filter (· ≤ bound) := by
      rw [stable, List.filter_comm, ← filter_flatMap_le]
      intro first member inside
      have positive : 0 < first := by simpa using (List.mem_filter.1 member).2
      rw [List.drop_take]
      refine ih _ ?_ ?_
      · rw [← List.drop_take, List.length_drop]
        omega
      · rw [List.length_drop]
        omega
    cases limit with
    | zero =>
      have empty : text.take bound = [] := List.length_eq_zero_iff.1 (Nat.le_zero.1 enough)
      rw [empty, none, List.flatMap_nil] at further
      cases greedy <;> simp [rounds, ← further]
    | succ limit =>
      rw [Nat.add_sub_cancel] at further
      cases greedy <;> simp [rounds, further]

end

/-- A pattern matches the front part of a text in those ways in which it matches the whole text and
stays in the part. -/
theorem ways_take (pattern : Pattern) (text : List Char) (bound : Nat) :
    pattern.ways (text.take bound) = (pattern.ways text).filter (· ≤ bound) := by
  induction pattern generalizing text bound with
  | nothing => rfl
  | one test =>
    cases text with
    | nil => rw [List.take_nil]; rfl
    | cons c text =>
      cases bound with
      | zero => cases found : test c <;> simp [ways, found]
      | succ bound => cases found : test c <;> simp [ways, found]
  | both first second ihFirst ihSecond =>
    simp only [ways]
    rw [ihFirst, ← filter_flatMap_le]
    intro length _ _
    rw [List.drop_take, ihSecond]
  | either first second ihFirst ihSecond =>
    simp only [ways]
    rw [ihFirst, ihSecond, List.filter_append]
  | many inner ih => exact rounds_take ih _ _ (Nat.le_refl _) (Nat.le_refl _)
  | few inner ih => exact rounds_take ih _ _ (Nat.le_refl _) (Nat.le_refl _)

theorem first?_take {pattern : Pattern} {bound : Nat} (found : pattern.first? text = some length)
    (inside : length ≤ bound) : pattern.first? (text.take bound) = some length := by
  obtain ⟨later, ways⟩ := List.head?_eq_some_iff.1 found
  rw [first?, ways_take, ways, List.filter_cons_of_pos (by simpa using inside)]
  rfl

theorem first?_take_of_none {pattern : Pattern} (none : pattern.first? text = none) (bound : Nat) :
    pattern.first? (text.take bound) = Option.none := by
  rw [first?, ways_take, List.head?_eq_none_iff.1 none]
  rfl

end

section
variable {text : List Char}

theorem rounds_of_length_le (inner : Pattern) {greedy : Bool} {limit : Nat}
    (enough : text.length ≤ limit) :
    rounds inner.ways greedy limit text = rounds inner.ways greedy text.length text := by
  have stays (limit : Nat) (enough : text.length ≤ limit) :=
    @rounds_take text inner.ways greedy text.length inner.ways_take limit text.length
      (by rwa [List.take_length]) (Nat.le_refl _)
  rw [List.take_length] at stays
  rw [stays limit enough, ← stays text.length (Nat.le_refl _)]

/-- One more round, followed by others in the same way -/
theorem further_eq (inner : Pattern) (greedy : Bool) (c : Char) (rest : List Char) :
    (((inner.ways (c :: rest)).filter (0 < ·)).flatMap fun first =>
      (rounds inner.ways greedy rest.length ((c :: rest).drop first)).map (first + ·)) =
    ((inner.ways (c :: rest)).filter (0 < ·)).flatMap fun first =>
      (rounds inner.ways greedy ((c :: rest).drop first).length ((c :: rest).drop first)).map
        (first + ·) := by
  apply List.flatMap_congr
  intro first member
  have positive : 0 < first := by simpa using (List.mem_filter.1 member).2
  rw [rounds_of_length_le]
  rw [List.length_drop, List.length_cons]
  omega

theorem ways_many (inner : Pattern) (text : List Char) : (many inner).ways text =
    (((inner.ways text).filter (0 < ·)).flatMap fun first =>
      ((many inner).ways (text.drop first)).map (first + ·)) ++ [0] := by
  cases text with
  | nil =>
    rw [filter_pos_of_stable inner.ways_take]
    rfl
  | cons c rest => exact congrArg (· ++ [0]) (further_eq inner true c rest)

theorem ways_few (inner : Pattern) (text : List Char) : (few inner).ways text =
    0 :: ((inner.ways text).filter (0 < ·)).flatMap fun first =>
      ((few inner).ways (text.drop first)).map (first + ·) := by
  cases text with
  | nil =>
    rw [filter_pos_of_stable inner.ways_take]
    rfl
  | cons c rest => exact congrArg (0 :: ·) (further_eq inner false c rest)

/-- What follows a round follows all of the rounds. -/
theorem ways_both_flatMap (lengths : List Nat) (further : Nat → List Nat) (last : Pattern)
    (text : List Char) :
    ((lengths.flatMap fun first => (further first).map (first + ·)).flatMap fun length =>
      (last.ways (text.drop length)).map (length + ·)) =
    lengths.flatMap fun first => ((further first).flatMap fun length =>
      (last.ways ((text.drop first).drop length)).map (length + ·)).map (first + ·) := by
  rw [List.flatMap_assoc]
  apply List.flatMap_congr
  intro first _
  rw [List.flatMap_map, List.map_flatMap]
  apply List.flatMap_congr
  intro length _
  rw [List.map_map, List.drop_drop]
  apply List.map_congr_left
  intro other _
  exact Nat.add_assoc ..

theorem ways_both_many (inner last : Pattern) (text : List Char) : (both (many inner) last).ways text =
    (((inner.ways text).filter (0 < ·)).flatMap fun first =>
      ((both (many inner) last).ways (text.drop first)).map (first + ·)) ++ last.ways text := by
  have rest : [0].flatMap (fun length => (last.ways (text.drop length)).map (length + ·)) =
      last.ways text := by simp
  change ((many inner).ways text).flatMap _ = _
  rw [ways_many, List.flatMap_append, rest, ways_both_flatMap]
  rfl

theorem ways_both_few (inner last : Pattern) (text : List Char) : (both (few inner) last).ways text =
    last.ways text ++ ((inner.ways text).filter (0 < ·)).flatMap fun first =>
      ((both (few inner) last).ways (text.drop first)).map (first + ·) := by
  have rest : [0].flatMap (fun length => (last.ways (text.drop length)).map (length + ·)) =
      last.ways text := by simp
  change ((few inner).ways text).flatMap _ = _
  rw [ways_few, ← List.singleton_append, List.flatMap_append, rest, ways_both_flatMap]
  rfl

end

section
variable {text : List Char}

theorem ways_one (test : Char → Bool) (c : Char) (rest : List Char) :
    (one test).ways (c :: rest) = if test c then [1] else [] := rfl

theorem ways_one_both (test : Char → Bool) (pattern : Pattern) (c : Char) (rest : List Char) :
    (both (one test) pattern).ways (c :: rest) =
      if test c then (pattern.ways rest).map (1 + ·) else [] := by
  cases passes : test c <;> simp [ways, passes]

theorem first?_one_both (test : Char → Bool) (pattern : Pattern) (c : Char) (rest : List Char) :
    (both (one test) pattern).first? (c :: rest) =
      if test c then (pattern.first? rest).map (1 + ·) else none := by
  rw [first?, ways_one_both]
  split
  · rw [List.head?_map]
    rfl
  · rfl

theorem first?_either (first second : Pattern) (text : List Char) :
    (either first second).first? text = (first.first? text).or (second.first? text) := by
  rw [first?, ways, List.head?_append]
  rfl

section
variable {inner last : Pattern} {first second : Nat} {later : List Nat}

theorem first?_both_many_of_none (none : inner.ways text = []) :
    (both (many inner) last).first? text = last.first? text := by
  rw [first?, ways_both_many, none]
  rfl

/-- Where there is one way to match a round, another round is tried before the end. -/
theorem first?_both_many (round : inner.ways text = [first]) (positive : 0 < first) :
    (both (many inner) last).first? text =
      (((both (many inner) last).first? (text.drop first)).map (first + ·)).or (last.first? text) := by
  rw [first?, ways_both_many, round, List.filter_cons_of_pos (by simpa using positive), List.filter_nil,
    List.flatMap_singleton, List.head?_append, List.head?_map]
  rfl

/-- Where there is one way to match a round, the end is tried before another round. -/
theorem first?_both_few (round : inner.ways text = [first]) (positive : 0 < first) :
    (both (few inner) last).first? text =
      (last.first? text).or (((both (few inner) last).first? (text.drop first)).map (first + ·)) := by
  rw [first?, ways_both_few, round, List.filter_cons_of_pos (by simpa using positive), List.filter_nil,
    List.flatMap_singleton, List.head?_append, List.head?_map]
  rfl

theorem first?_many_of_none (none : inner.ways text = []) : (many inner).first? text = some 0 := by
  rw [first?, ways_many, none]
  rfl

/-- The first way to match a round is kept, because the rounds behind it may always end. -/
theorem first?_many (round : inner.ways text = first :: later) (positive : 0 < first)
    (further : (many inner).first? (text.drop first) = some second) :
    (many inner).first? text = some (first + second) := by
  obtain ⟨others, ways⟩ := List.head?_eq_some_iff.1 further
  rw [first?, ways_many, round, List.filter_cons_of_pos (by simpa using positive), List.flatMap_cons, ways]
  rfl

end

theorem first?_many_one (test : Char → Bool) (text : List Char) :
    (many (one test)).first? text = some (text.takeWhile test).length := by
  induction text with
  | nil => rfl
  | cons c rest ih =>
    by_cases passes : test c = true
    · have round : (one test).ways (c :: rest) = [1] := by rw [ways_one, if_pos passes]
      rw [first?_many round Nat.one_pos ih, List.takeWhile_cons_of_pos passes, List.length_cons, Nat.add_comm]
    · have round : (one test).ways (c :: rest) = [] := by rw [ways_one, if_neg passes]
      rw [first?_many_of_none round, List.takeWhile_cons_of_neg passes]
      rfl

theorem ways_spelled (spelling text : List Char) : (spelled spelling).ways text =
    ((Lexeme.strip? spelling text).map fun _ => spelling.length).toList := by
  induction spelling generalizing text with
  | nil => rfl
  | cons c spelling ih =>
    cases text with
    | nil => rfl
    | cons d text =>
      rw [spelled, ways_one_both, ih, Lexeme.strip?]
      by_cases same : c = d
      · subst same
        cases Lexeme.strip? spelling text <;> simp [Nat.add_comm]
      · simp [same, Ne.symm same]

theorem first?_spelled (spelling text : List Char) : (spelled spelling).first? text =
    (Lexeme.strip? spelling text).map fun _ => spelling.length := by
  rw [first?, ways_spelled]
  cases Lexeme.strip? spelling text <;> rfl

theorem first?_spelled_both (spelling : List Char) (pattern : Pattern) (text : List Char) :
    (both (spelled spelling) pattern).first? text = (Lexeme.strip? spelling text).bind fun rest =>
      (pattern.first? rest).map (spelling.length + ·) := by
  rw [first?, ways, ways_spelled]
  cases stripped : Lexeme.strip? spelling text with
  | none => rfl
  | some rest =>
    have behind : text.drop spelling.length = rest := by
      rw [← Lexeme.append_of_strip? stripped, List.drop_left]
    simp [behind, first?]

theorem first?_anyOf (spellings : List String) (text : List Char) :
    (anyOf spellings).first? text = spellings.findSome? fun spelling =>
      (Lexeme.strip? spelling.toList text).map fun _ => spelling.toList.length := by
  induction spellings with
  | nil => cases text <;> rfl
  | cons spelling spellings ih =>
    rw [anyOf, first?_either, first?_spelled, ih, List.findSome?_cons]
    cases Lexeme.strip? spelling.toList text <;> rfl

end

end Pattern

end GoDto
