import GoDto.Proofs.LexemeRules
import GoDto.Proofs.Offsets
import GoDto.Proofs.Respacing

/-!
Where a text cannot be read. The lexemes that match one after another from its start lead to a single
place at which none matches, or only the opening of a comment that is not closed. The text before that
place can be read, and the error tells of the place and of what stands there.
-/

namespace GoDto

namespace Lexeme

open Rule (first?)

/-- Lexemes match one after another from the start of a text up to the rest of it. -/
inductive Leads : List Char → List Char → Prop where
  | here (text : List Char) : Leads text text
  | there {text rest : List Char} {rule : Rule} {length : Nat} : first? text = some (rule, length) →
      rule ≠ .commentOpening → Leads (text.drop length) rest → Leads text rest

/-- A text that starts with no lexeme, or with the opening of a comment that is not closed -/
structure Stuck (text : List Char) : Prop where
  nonempty : text ≠ []
  unread : first? text = none ∨ ∃ length, first? text = some (.commentOpening, length)

/-- The lexemes from the start of the text end at the offset, and none of them stands there. -/
def FailsAt (text : String) (offset : Nat) : Prop :=
  ∃ front rest, text.toList = front ++ rest ∧ byteSize front = offset ∧ Leads text.toList rest ∧ Stuck rest

section
variable {text rest : List Char} {lexeme : Lexeme} {rule : Rule} {length : Nat}

theorem first?_of_next? (found : next? text = some (lexeme, rest)) : ∃ rule,
    first? text = some (rule, lexeme.text.length) ∧ rule ≠ .commentOpening := by
  obtain ⟨⟨shape, split⟩, cut, same⟩ := Option.map_eq_some_iff.1 found
  have read := Rule.first?_eq text
  rw [cut] at read
  cases same
  obtain ⟨rule, matched, known⟩ := read
  refine ⟨rule, matched, ?_⟩
  rintro rfl
  cases known

theorem first?_of_next?_eq_none (none : next? text = none) :
    first? text = if opensComment text then some (.commentOpening, 2) else Option.none := by
  have read := Rule.first?_eq text
  rwa [Option.map_eq_none_iff.1 none] at read

/-- What an alternative other than the opening of a comment matches is the next lexeme. -/
theorem next?_of_first? (found : first? text = some (rule, length)) (lexeme : rule ≠ .commentOpening) :
    ∃ shape, next? text = some (⟨shape, text.take length⟩, text.drop length) := by
  cases read : next? text with
  | none =>
    rw [first?_of_next?_eq_none read] at found
    split at found
    · cases found
      exact absurd rfl lexeme
    · cases found
  | some next =>
    obtain ⟨⟨shape, own⟩, rest⟩ := next
    obtain ⟨other, matched, -⟩ := first?_of_next? read
    obtain ⟨rfl, -⟩ := next?_eq_some read
    rw [matched] at found
    cases found
    exact ⟨shape, by rw [List.take_left, List.drop_left]⟩

theorem isSome_first? (text : List Char) :
    (first? text).isSome = ((next? text).isSome || opensComment text) := by
  cases read : next? text with
  | none =>
    rw [first?_of_next?_eq_none read]
    cases opensComment text <;> rfl
  | some next =>
    obtain ⟨rule, matched, -⟩ := first?_of_next? read
    rw [matched]
    rfl

theorem Stuck.next?_eq_none (stuck : Stuck text) : next? text = none := by
  cases read : next? text with
  | none => rfl
  | some next =>
    obtain ⟨rule, matched, lexeme⟩ := first?_of_next? read
    rcases stuck.unread with none | ⟨length, opening⟩
    · rw [matched] at none
      cases none
    · rw [matched] at opening
      cases opening
      exact absurd rfl lexeme

theorem all_of_next?_eq_none (none : next? text = none) : all text = ([], text) := by
  rw [all]
  split
  · rfl
  · next found =>
    rw [none] at found
    cases found

theorem Leads.all_snd (leads : Leads text rest) : (all text).2 = (all rest).2 := by
  induction leads with
  | here => rfl
  | there matched lexeme _ ih =>
    obtain ⟨shape, read⟩ := next?_of_first? matched lexeme
    rw [all_of_next? read, ih]

/-- The lexemes of a text lead to where none is found any more. -/
theorem leads_all (text : List Char) : Leads text (all text).2 ∧ next? (all text).2 = none := by
  fun_induction all text with
  | case1 text none => exact ⟨.here text, none⟩
  | case2 text lexeme rest found _ later stuck same ih =>
    obtain ⟨rule, matched, other⟩ := first?_of_next? found
    obtain ⟨rfl, -⟩ := next?_eq_some found
    rw [same] at ih
    refine ⟨.there matched other ?_, ih.2⟩
    rw [List.drop_left]
    exact ih.1

theorem stuck_all (incomplete : (all text).2 ≠ []) : Stuck (all text).2 := by
  refine ⟨incomplete, ?_⟩
  rw [first?_of_next?_eq_none (leads_all text).2]
  cases opensComment (all text).2 with
  | false => exact .inl rfl
  | true => exact .inr ⟨2, rfl⟩

/-- Nothing that is matched depends on what follows it. -/
theorem Leads.take (leads : Leads text rest) : ∃ bound, rest = text.drop bound ∧ Leads (text.take bound) [] := by
  induction leads with
  | here text => exact ⟨0, rfl, .here []⟩
  | @there text rest rule length matched lexeme _ ih =>
    obtain ⟨bound, same, leads⟩ := ih
    refine ⟨length + bound, by rw [same, List.drop_drop], ?_⟩
    have shorter := Rule.first?_take matched (Nat.le_add_right length bound)
    refine .there shorter lexeme ?_
    rwa [List.drop_take, Nat.add_sub_cancel_left]

/-- The place at which lexemes end is that of what is left over. -/
theorem failsAt_iff {text : String} {offset : Nat} : FailsAt text offset ↔
    (all text.toList).2 ≠ [] ∧ byteSize ((all text.toList).1.flatMap Lexeme.text) = offset := by
  have whole := flatMap_all text.toList
  constructor
  · rintro ⟨front, rest, split, rfl, leads, stuck⟩
    have left : (all text.toList).2 = rest := by
      rw [leads.all_snd, all_of_next?_eq_none stuck.next?_eq_none]
    rw [left] at whole ⊢
    rw [split] at whole
    rw [split, List.append_cancel_right whole]
    exact ⟨stuck.nonempty, rfl⟩
  · rintro ⟨incomplete, rfl⟩
    exact ⟨_, _, whole.symm, rfl, (leads_all _).1, stuck_all incomplete⟩

/-- What is unreadable goes on up to the next place where something matches. -/
theorem unreadable_spec (text : List Char) : ∃ behind, text = unreadable text ++ behind ∧
    (behind = [] ∨ (first? behind).isSome) ∧
    ∀ before inside, unreadable text = before ++ inside → inside ≠ [] →
      first? (inside ++ behind) = none := by
  induction text with
  | nil =>
    refine ⟨[], rfl, .inl rfl, fun before inside split nonempty => ?_⟩
    exact absurd (List.append_eq_nil_iff.1 split.symm).2 nonempty
  | cons c text ih =>
    have matched := isSome_first? (c :: text)
    unfold unreadable
    split
    · next starts =>
      rw [starts] at matched
      refine ⟨c :: text, rfl, .inr matched, fun before inside split nonempty => ?_⟩
      exact absurd (List.append_eq_nil_iff.1 split.symm).2 nonempty
    · next other =>
      obtain ⟨behind, whole, ends, none⟩ := ih
      refine ⟨behind, congrArg (c :: ·) whole, ends, fun before inside split nonempty => ?_⟩
      cases before with
      | nil =>
        rw [Bool.not_eq_true] at other
        rw [other] at matched
        rw [List.nil_append] at split
        rw [← split, List.cons_append, ← whole]
        exact Option.isSome_eq_false_iff.1 matched |> Option.isNone_iff_eq_none.1
      | cons d before => exact none before inside (List.cons.inj split).2 nonempty

end

/-- What an error says about the text that could not be read on -/
inductive Tells : List Char → String → Prop where
  | comment {text : List Char} {length : Nat} : first? text = some (.commentOpening, length) →
      Tells text "Unterminated comment"
  | string {rest : List Char} : first? ('"' :: rest) = none → Tells ('"' :: rest) "Unterminated string literal"
  | rawString {rest : List Char} : first? ('\x60' :: rest) = none →
      Tells ('\x60' :: rest) "Unterminated raw string literal"
  | rune {rest : List Char} : first? ('\'' :: rest) = none → Tells ('\'' :: rest) "Unterminated rune literal"
  /-- The text is quoted up to the next place where something matches, or up to the end. -/
  | unreadable {text behind : List Char} : text ≠ [] →
      (∀ c ∈ text.head?, c ≠ '"' ∧ c ≠ '\x60' ∧ c ≠ '\'') →
      (∀ before inside, text = before ++ inside → inside ≠ [] → first? (inside ++ behind) = none) →
      (behind = [] ∨ (first? behind).isSome) →
      Tells (text ++ behind) ("Syntax error: " ++ Text.quoted (String.ofList text))

theorem tells_unreadable {c : Char} {rest : List Char} (read : first? (c :: rest) = none)
    (other : c ≠ '"' ∧ c ≠ '\x60' ∧ c ≠ '\'') :
    Tells (c :: rest) ("Syntax error: " ++ Text.quoted (String.ofList (unreadable (c :: rest)))) := by
  obtain ⟨behind, whole, ends, none⟩ := unreadable_spec (c :: rest)
  have nonempty : unreadable (c :: rest) ≠ [] := by
    intro empty
    rw [empty, List.nil_append] at whole
    rw [← whole, read] at ends
    simp at ends
  have told : Tells (unreadable (c :: rest) ++ behind)
      ("Syntax error: " ++ Text.quoted (String.ofList (unreadable (c :: rest)))) := by
    refine .unreadable nonempty ?_ none ends
    intro d head
    obtain ⟨more, same⟩ := List.head?_eq_some_iff.1 head
    rw [same, List.cons_append] at whole
    obtain ⟨rfl, -⟩ := List.cons.inj whole
    exact other
  rwa [← whole] at told

theorem Stuck.tells {text : List Char} (stuck : Stuck text) :
    Tells text (LexicalFault.ofStuck text).message := by
  have read := first?_of_next?_eq_none stuck.next?_eq_none
  unfold LexicalFault.ofStuck
  split
  · next opens =>
    rw [if_pos opens] at read
    exact .comment read
  · next opens =>
    rw [if_neg opens] at read
    obtain ⟨c, rest, rfl⟩ := List.exists_cons_of_ne_nil stuck.nonempty
    split
    · next head =>
      obtain rfl := Option.some.inj head
      exact .string read
    · next head =>
      obtain rfl := Option.some.inj head
      exact .rawString read
    · next head =>
      obtain rfl := Option.some.inj head
      exact .rune read
    · next string raw rune =>
      exact tells_unreadable read ⟨fun same => string (congrArg some same), fun same => raw (congrArg some same),
        fun same => rune (congrArg some same)⟩

end Lexeme

/-- An error tells of the offset at which the text cannot be read, and the text before it can be. -/
structure LexicalError.Reports (error : LexicalError) (text : String) (offset : Nat) : Prop where
  place : error.position.Denotes text offset
  cut : ∃ front rest, text = front ++ rest ∧ front.utf8ByteSize = offset ∧
    (∃ tokens, Tokens.ofText front = .ok tokens) ∧ Lexeme.Tells rest.toList error.fault.message

/-- The text before the place where lexemes end is read. -/
theorem Tokens.ofText_before {text front rest : List Char} (whole : front ++ rest = text)
    (leads : Lexeme.Leads text rest) : ∃ tokens, Tokens.ofText (String.ofList front) = .ok tokens := by
  obtain ⟨bound, same, leads⟩ := leads.take
  have cut : text.take bound = front := by
    refine @List.append_cancel_right _ _ rest _ ?_
    rw [whole, same, List.take_append_drop]
  have complete := leads.all_snd
  rw [cut, Lexeme.all_nil] at complete
  rw [ofText_eq, String.toList_ofList, if_pos complete]
  exact ⟨_, rfl⟩

/-- Reading a text fails exactly if there is an offset at which it fails. There is only one then, and
the error tells of it. -/
theorem Tokens.ofText_fails (text : String) :
    ((∃ error, ofText text = .error error) ↔ ∃ offset < text.utf8ByteSize, Lexeme.FailsAt text offset) ∧
    (∀ first second, Lexeme.FailsAt text first → Lexeme.FailsAt text second → first = second) ∧
    ∀ error offset, ofText text = .error error → Lexeme.FailsAt text offset →
      error.Reports text offset := by
  have whole := Lexeme.flatMap_all text.toList
  refine ⟨?_, ?_, ?_⟩
  · rw [ofText_eq]
    constructor
    · rintro ⟨error, failed⟩
      have incomplete : (Lexeme.all text.toList).2 ≠ [] := by
        intro complete
        rw [if_pos complete] at failed
        cases failed
      refine ⟨_, ?_, Lexeme.failsAt_iff.2 ⟨incomplete, rfl⟩⟩
      have positive := byteSize_pos incomplete
      rw [← byteSize_toList, ← whole, byteSize_append]
      simp only [whole]
      omega
    · rintro ⟨offset, -, fails⟩
      rw [if_neg (Lexeme.failsAt_iff.1 fails).1]
      exact ⟨_, rfl⟩
  · intro first second fails failsToo
    rw [← (Lexeme.failsAt_iff.1 fails).2, ← (Lexeme.failsAt_iff.1 failsToo).2]
  · intro error offset failed fails
    obtain ⟨incomplete, rfl⟩ := Lexeme.failsAt_iff.1 fails
    rw [ofText_eq, if_neg incomplete] at failed
    cases failed
    refine ⟨Position.denotes_of_append whole.symm, ?_⟩
    refine ⟨String.ofList ((Lexeme.all text.toList).1.flatMap Lexeme.text),
      String.ofList (Lexeme.all text.toList).2, ?_, rfl, ?_, ?_⟩
    · rw [← String.toList_inj, String.toList_append, String.toList_ofList, String.toList_ofList, whole]
    · exact ofText_before whole (Lexeme.leads_all _).1
    · rw [String.toList_ofList]
      exact (Lexeme.stuck_all incomplete).tells

end GoDto
