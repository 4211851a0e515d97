import GoDto.Proofs.Downward
import GoDto.Proofs.LexemeSeam

/-!
Tokens on both sides of a line break between two texts. Those before it are the tokens of the first
text, and those behind it are the tokens of the second one, further down by the lines of the first.
-/

namespace GoDto

open Unicode

namespace Lexeme

/-- What lexemes in front contribute does not depend on what follows them. -/
theorem layOut_append (first : List Lexeme) (ends : Bool) (position : Position) :
    ∃ tokens flag, ∀ second, layOut ends position (first ++ second) =
      tokens ++ layOut flag (position.after (first.flatMap Lexeme.text)) second := by
  induction first generalizing ends position with
  | nil => exact ⟨[], ends, fun second => rfl⟩
  | cons lexeme first ih =>
    cases stands : lexeme.kind? with
    | none =>
      by_cases breaks : (ends && lexeme.text.contains '\n') = true
      · obtain ⟨tokens, flag, later⟩ := ih false (position.after lexeme.text)
        refine ⟨.lineEnd position :: tokens, flag, fun second => ?_⟩
        simp only [List.cons_append, layOut, stands, breaks, if_true, later, List.flatMap_cons,
          Position.after_append]
      · obtain ⟨tokens, flag, later⟩ := ih ends (position.after lexeme.text)
        refine ⟨tokens, flag, fun second => ?_⟩
        simp only [List.cons_append, layOut, stands, breaks, Bool.false_eq_true, if_false, later,
          List.flatMap_cons, Position.after_append]
    | some kind =>
      let token : Token := ⟨kind, String.ofList lexeme.text, position⟩
      obtain ⟨tokens, flag, later⟩ := ih token.mayEndStatement (position.after lexeme.text)
      refine ⟨token :: tokens, flag, fun second => ?_⟩
      rw [List.flatMap_cons, Position.after_append, @List.cons_append _ token, ← later]
      simp only [List.cons_append, layOut, stands]
      rfl

/-- The semicolon that a line break stands for, where one may stand -/
def seam (flag : Bool) (position : Position) : List Token :=
  if flag then [.lineEnd position] else []

theorem layOut_line {text : List Char} (breaks : '\n' ∈ text) (flag : Bool) (position : Position)
    (later : List Lexeme) : layOut flag position (⟨.blank, text⟩ :: later) =
      seam flag position ++ layOut false (position.after text) later := by
  cases flag <;> simp [layOut, kind?, seam, breaks]

/-- A blank at the end adds nothing, but it may move the last semicolon. -/
theorem layOut_blank (flag : Bool) (position : Position) (text : List Char) :
    ∃ place, layOut flag position [⟨.blank, text⟩] = seam flag place := by
  by_cases breaks : '\n' ∈ text
  · refine ⟨position, ?_⟩
    rw [layOut_line breaks]
    simp [layOut]
  · refine ⟨position.after text, ?_⟩
    cases flag <;> simp [layOut, kind?, seam, breaks]

theorem layOut_down (count : Nat) (ends : Bool) (position : Position) (lexemes : List Lexeme) :
    layOut ends (position.down count) lexemes =
      (layOut ends position lexemes).map (Token.down count) := by
  induction lexemes generalizing ends position with
  | nil => cases ends <;> rfl
  | cons lexeme lexemes ih =>
    simp only [layOut, Position.after_down, ih]
    cases lexeme.kind? with
    | none =>
      simp only
      split <;> rfl
    | some kind => rfl

/-- Nothing of a text is lost. -/
theorem flatMap_all (text : List Char) : (all text).1.flatMap Lexeme.text ++ (all text).2 = text := by
  fun_induction all text with
  | case1 => rfl
  | case2 text lexeme rest found _ later stuck same ih =>
    rw [List.flatMap_cons, List.append_assoc]
    rw [same] at ih
    rw [ih]
    exact (next?_eq_some found).1

/-- The lexemes of a text that starts with a line break -/
theorem all_line (more : List Char) :
    ∃ behind, (Split.run isBlank ('\n' :: more)).front = '\n' :: behind ∧
      all ('\n' :: more) =
        (⟨.blank, '\n' :: behind⟩ :: (all (Split.run isBlank ('\n' :: more)).rest).1,
          (all (Split.run isBlank ('\n' :: more)).rest).2) := by
  have blank : isBlank '\n' = true := by decide
  have gap : (Split.run isBlank ('\n' :: more)).front = '\n' :: (Split.run isBlank more).front := by
    rw [Split.run, List.takeWhile_cons_of_pos blank]
    rfl
  refine ⟨_, gap, all_of_next? ?_⟩
  rw [next?, cut?_of_blank blank, ← gap]
  rfl

/-- Behind a line break a text is cut as it is on its own. -/
theorem all_append_line_eq {text : List Char} {lexemes : List Lexeme}
    (whole : all text = (lexemes, [])) (more : List Char) :
    (all (text ++ '\n' :: more)).2 = (all ('\n' :: more)).2 ∧
      Position.start.after ((all (text ++ '\n' :: more)).1.flatMap Lexeme.text) =
        (Position.start.after ((all ('\n' :: more)).1.flatMap Lexeme.text)).down
          (text.count '\n') := by
  obtain ⟨front, last, -, appended⟩ := all_append_line whole
  obtain ⟨behind, -, line⟩ := all_line more
  have stuck : (all (text ++ '\n' :: more)).2 = (all ('\n' :: more)).2 := by rw [appended, line]
  have lossless := calc
    (all (text ++ '\n' :: more)).1.flatMap Lexeme.text ++ (all ('\n' :: more)).2
    _ = text ++ '\n' :: more := by rw [← stuck, flatMap_all]
    _ = text ++ ((all ('\n' :: more)).1.flatMap Lexeme.text ++ (all ('\n' :: more)).2) := by
      rw [flatMap_all]
    _ = text ++ (all ('\n' :: more)).1.flatMap Lexeme.text ++ (all ('\n' :: more)).2 :=
      (List.append_assoc ..).symm
  have taken := List.append_cancel_right lossless
  refine ⟨stuck, ?_⟩
  rw [taken, line, List.flatMap_cons, List.cons_append, Position.after_line]

/-- Behind a line break lexemes are laid out as they are on their own, further down. Before it there
is nothing but what the end of the text would add. -/
theorem layOut_all_line {text : List Char} {lexemes : List Lexeme}
    (whole : all text = (lexemes, [])) :
    ∃ before flag place place', layOut false .start lexemes = before ++ seam flag place ∧
      ∀ more, layOut false .start (all (text ++ '\n' :: more)).1 = before ++ seam flag place' ++
        (layOut false .start (all ('\n' :: more)).1).map (Token.down (text.count '\n')) := by
  obtain ⟨front, last, reached, appended⟩ := all_append_line whole
  obtain ⟨before, flag, laidOut⟩ := layOut_append front false .start
  have lossless : front.flatMap Lexeme.text ++ last = text := by
    have taken := flatMap_all text
    rw [whole, List.append_nil] at taken
    rcases reached with ⟨rfl, rfl⟩ | rfl <;> simpa using taken
  obtain ⟨place, ended⟩ : ∃ place, layOut false .start lexemes = before ++ seam flag place := by
    rcases reached with ⟨rfl, rfl⟩ | rfl
    · exact ⟨_, by simpa [layOut, seam] using laidOut []⟩
    · obtain ⟨place, blank⟩ := layOut_blank flag _ last
      exact ⟨place, by rw [laidOut, blank]⟩
  refine ⟨before, flag, place, Position.start.after (front.flatMap Lexeme.text), ended,
    fun more => ?_⟩
  obtain ⟨behind, gap, line⟩ := all_line more
  have breaks : '\n' ∈ last ++ '\n' :: behind := by simp
  have moved : Position.start.after (front.flatMap Lexeme.text ++ (last ++ '\n' :: behind)) =
      (Position.start.after ('\n' :: behind)).down (text.count '\n') := by
    rw [← List.append_assoc, lossless, Position.after_line]
  rw [appended, line, gap, laidOut, layOut_line breaks, layOut_line List.mem_cons_self,
    ← Position.after_append, moved, layOut_down, List.append_assoc]
  rfl

end Lexeme

def LexicalError.down (count : Nat) (error : LexicalError) : LexicalError :=
  { error with position := error.position.down count }

namespace Tokens

def down (count : Nat) (tokens : Tokens) : Tokens where
  body := tokens.body.map (Token.down count)
  final := tokens.final.down count
  final_ends := tokens.final_ends

/-- Puts more tokens in front. -/
def behind (front : List Token) (tokens : Tokens) : Tokens where
  body := front ++ tokens.body
  final := tokens.final
  final_ends := tokens.final_ends

theorem ofText_eq (text : String) : ofText text =
    if (Lexeme.all text.toList).2 = [] then
      .ok ⟨Lexeme.layOut false .start (Lexeme.all text.toList).1,
        .fileEnd (Position.start.after text.toList), rfl⟩
    else .error ⟨Position.start.after ((Lexeme.all text.toList).1.flatMap Lexeme.text),
      .ofStuck (Lexeme.all text.toList).2⟩ := by
  unfold ofText
  split
  · next lexemes found => simp [found]
  · next lexemes stuck nonempty found =>
    rw [found, if_neg fun empty => nonempty (by simpa using empty)]

/-- A line break behind a text adds no token that the end of the text would not add. Only the place
of that token may change. -/
theorem ofText_append {text : String} {tokens : Tokens} (read : ofText text = .ok tokens) :
    ∃ before flag place place', tokens.body = before ++ Lexeme.seam flag place ∧
      ∀ more : String, ofText (text ++ "\n" ++ more) =
        ((ofText ("\n" ++ more)).map fun later =>
          (later.down (text.toList.count '\n')).behind (before ++ Lexeme.seam flag place')).mapError
            (LexicalError.down (text.toList.count '\n')) := by
  rw [ofText_eq] at read
  split at read
  · next complete =>
    cases read
    have whole : Lexeme.all text.toList = ((Lexeme.all text.toList).1, []) := by rw [← complete]
    obtain ⟨before, flag, place, place', ended, laidOut⟩ := Lexeme.layOut_all_line whole
    refine ⟨before, flag, place, place', ended, fun more => ?_⟩
    obtain ⟨stuck, reached⟩ := Lexeme.all_append_line_eq whole more.toList
    have joined : (text ++ "\n" ++ more).toList = text.toList ++ '\n' :: more.toList := by simp
    have line : ("\n" ++ more).toList = '\n' :: more.toList := by simp
    rw [ofText_eq, ofText_eq, joined, line, stuck]
    split
    · simp only [Except.map, Except.mapError, Tokens.down, Tokens.behind, laidOut,
        Position.after_line, Token.fileEnd, Token.down]
    · simp only [Except.map, Except.mapError, LexicalError.down, reached]
  · cases read

end Tokens

end GoDto
