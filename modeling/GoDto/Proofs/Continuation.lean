import GoDto.Proofs.DeclSeam
import GoDto.Proofs.TokenSeam

/-!
One text after another. What a text declares does not depend on what stands in front of it, as long
as that is a source file of its own that ends with a semicolon. Only lines are counted on.
-/

namespace GoDto

namespace Tokens

/-- The last token before the end of the file is a semicolon, written or not. -/
def EndsStatement (tokens : Tokens) : Prop :=
  ∃ token, tokens.body.getLast? = some token ∧ token.kind = .semicolon

theorem down_zero (tokens : Tokens) : tokens.down 0 = tokens := by
  obtain ⟨body, final, ends⟩ := tokens
  have same : Token.down 0 = id := rfl
  simp only [down, same, List.map_id]
  rfl

end Tokens

namespace SourceFile

open Grammar

variable {front : List Token} {file : SourceFile} {later : Tokens}

/-- Tokens behind a completed file are read as declarations, and the file has them at the end. -/
theorem ofTokens_behind_of_done {more : List (List TypeDecl)} {left : List Token}
    (completed : CompletedFile front file) (proper : (later.behind front).Proper)
    (read : Reader.many Reader.nextDecl later.final later.body = .done more left) :
    ofTokens (later.behind front) = .ok ⟨file.package, file.decls ++ more.flatten⟩ := by
  apply ofTokens_of_done
  exact (Reader.file_append proper.final completed proper.body).trans (Reader.bind_of_done read)

theorem ofTokens_behind_of_failed {error : SyntaxError} (completed : CompletedFile front file)
    (proper : (later.behind front).Proper)
    (read : Reader.many Reader.nextDecl later.final later.body = .failed error) :
    ofTokens (later.behind front) = .error error := by
  apply ofTokens_of_failed
  apply (Reader.file_append proper.final completed proper.body).trans
  change (Reader.many Reader.nextDecl >>= _) later.final later.body = _
  rw [Reader.bind_apply, read]

theorem decls_down {count : Nat} {found others : List (List TypeDecl)}
    (same : List.Forall₂ (List.Forall₂ (TypeDecl.Corresponds (MovedDown count))) found others) :
    others.flatten = found.flatten.map (TypeDecl.down count) := by
  have flat := List.rel_flatten same
  generalize found.flatten = decls at flat ⊢
  generalize others.flatten = decls' at flat ⊢
  induction flat with
  | nil => rfl
  | cons first _ ih => rw [first.eq_down, ih, List.map_cons]

/-- The same tokens further down, behind another file, are read as the same declarations further
down, or end in the same error further down. -/
theorem ofTokens_behind_down {other : List Token} {otherFile : SourceFile} {count : Nat}
    (completed : CompletedFile front file) (proper : (later.behind front).Proper)
    (otherCompleted : CompletedFile other otherFile)
    (otherProper : ((later.down count).behind other).Proper) :
    (∃ decls, ofTokens (later.behind front) = .ok ⟨file.package, file.decls ++ decls⟩ ∧
      ofTokens ((later.down count).behind other) =
        .ok ⟨otherFile.package, otherFile.decls ++ decls.map (TypeDecl.down count)⟩) ∨
    ∃ error error', ofTokens (later.behind front) = .error error ∧
      ofTokens ((later.down count).behind other) = .error error' ∧
      error'.diagnostic = error.diagnostic.down count := by
  have ends := Reader.corresponds_many (Reader.corresponds_nextDecl MovedDown.alike) later.final
    (later.down count).final later.body (later.down count).body rfl (forall₂_movedDown later.body)
  have settled := Reader.many_nextDecl_ne_exhausted later.final_ends later.body
  generalize read : Reader.many Reader.nextDecl later.final later.body = outcome at ends settled
  generalize otherRead : Reader.many Reader.nextDecl (later.down count).final
    (later.down count).body = outcome' at ends
  cases ends with
  | @done found others _ _ same _ =>
    refine .inl ⟨found.flatten, ofTokens_behind_of_done completed proper read, ?_⟩
    rw [ofTokens_behind_of_done otherCompleted otherProper otherRead, decls_down same]
  | failed same =>
    exact .inr ⟨_, _, ofTokens_behind_of_failed completed proper read,
      ofTokens_behind_of_failed otherCompleted otherProper otherRead, same.diagnostic⟩
  | exhausted => exact absurd rfl settled

theorem ofText_of_tokens {text : String} {tokens : Tokens} (lexed : Tokens.ofText text = .ok tokens) :
    ofText text = (ofTokens tokens).mapError .syntactic := by
  unfold ofText
  rw [lexed]
  cases read : ofTokens tokens <;> simp [read, Except.mapError]

theorem ofText_of_lexical {text : String} {error : LexicalError}
    (stuck : Tokens.ofText text = .error error) : ofText text = .error (.lexical error) := by
  unfold ofText
  rw [stuck]

theorem ofTokens_of_ofText {text : String} {tokens : Tokens} {file : SourceFile}
    (lexed : Tokens.ofText text = .ok tokens) (read : ofText text = .ok file) :
    ofTokens tokens = .ok file := by
  rw [ofText_of_tokens lexed] at read
  cases outcome : ofTokens tokens with
  | error error =>
    rw [outcome] at read
    cases read
  | ok found =>
    rw [outcome] at read
    cases read
    rfl

theorem exists_tokens_of_ofText {text : String} {file : SourceFile} (read : ofText text = .ok file) :
    ∃ tokens, Tokens.ofText text = .ok tokens ∧ ofTokens tokens = .ok file := by
  cases lexed : Tokens.ofText text with
  | error error =>
    rw [ofText_of_lexical lexed] at read
    cases read
  | ok tokens => exact ⟨tokens, rfl, ofTokens_of_ofText lexed read⟩

/-- A line break behind a file that ends with a semicolon leaves all its declarations complete. -/
theorem completed_of_endsStatement {first : String} {tokens : Tokens} {file : SourceFile}
    (lexed : Tokens.ofText first = .ok tokens) (read : ofText first = .ok file)
    (ends : tokens.EndsStatement) : ∃ front, CompletedFile front file ∧ ∀ more : String,
      Tokens.ofText (first ++ "\n" ++ more) =
        ((Tokens.ofText ("\n" ++ more)).map fun later =>
          (later.down (first.toList.count '\n')).behind front).mapError
            (LexicalError.down (first.toList.count '\n')) := by
  obtain ⟨before, flag, place, place', body, appended⟩ := Tokens.ofText_append lexed
  refine ⟨before ++ Lexeme.seam flag place', ?_, appended⟩
  have proper := Tokens.proper_of_ofText lexed
  have derives := grammar_of_ofTokens proper (ofTokens_of_ofText lexed read)
  obtain ⟨semicolon, last, kind⟩ := ends
  have inside : ∀ token ∈ tokens.body, token.kind ≠ .endOfFile := by
    intro token member
    exact (proper.body token member).inside
  rw [Tokens.toList, body] at derives
  rw [body] at last inside
  cases flag with
  | true =>
    exact completedFile_of_file (by simpa [Lexeme.seam] using derives) rfl rfl
      fun token member => inside token (List.mem_append_left _ member)
  | false =>
    -- No semicolon belongs to the line break, so the last one stands in the text.
    obtain ⟨front, rfl⟩ : ∃ front, before = front ++ [semicolon] := by
      obtain ⟨front, same⟩ := List.getLast?_eq_some_iff.1 last
      exact ⟨front, by simpa [Lexeme.seam] using same⟩
    have complete := completedFile_of_file (by simpa [Lexeme.seam] using derives) kind kind
      fun token member => inside token (by simp [member])
    simpa [Lexeme.seam] using complete

/-- `package p` and a semicolon -/
theorem completed_package : ∃ front, CompletedFile front ⟨"p", []⟩ ∧ ∀ more : String,
    Tokens.ofText ("package p" ++ "\n" ++ more) =
      (Tokens.ofText ("\n" ++ more)).map fun later => later.behind front := by
  have whole : Lexeme.all "package p".toList = ([⟨.name, "package".toList⟩, ⟨.blank, " ".toList⟩,
      ⟨.name, "p".toList⟩], []) := by decide +kernel
  have lexed : Tokens.ofText "package p" = .ok ⟨[⟨.keyword, "package", .start⟩,
      ⟨.identifier, "p", ⟨1, 9⟩⟩, .lineEnd ⟨1, 10⟩], .fileEnd ⟨1, 10⟩, rfl⟩ := by
    rw [Tokens.ofText_eq, whole]
    rfl
  have read : ofText "package p" = .ok ⟨"p", []⟩ := by decide +kernel
  obtain ⟨front, completed, appended⟩ := completed_of_endsStatement lexed read ⟨_, rfl, rfl⟩
  refine ⟨front, completed, fun more => ?_⟩
  have lines : "package p".toList.count '\n' = 0 := by decide
  rw [appended, lines]
  cases Tokens.ofText ("\n" ++ more) with
  | error error => rfl
  | ok later =>
    simp only [Except.map, Except.mapError, Tokens.down_zero]

/-- What follows a source file on a line of its own is read as it would be behind `package p`, with
its lines counted on. The declarations come after those of the file. -/
theorem ofText_behind {first : String} {tokens : Tokens} {file : SourceFile}
    (lexed : Tokens.ofText first = .ok tokens) (read : ofText first = .ok file)
    (ends : tokens.EndsStatement) (second : String) :
    (∀ later, ofText ("package p\n" ++ second) = .ok later →
      ofText (first ++ "\n" ++ second) = .ok ⟨file.package,
        file.decls ++ later.decls.map (TypeDecl.down (first.toList.count '\n'))⟩) ∧
    ∀ error, ofText ("package p\n" ++ second) = .error error →
      ∃ other, ofText (first ++ "\n" ++ second) = .error other ∧
        other.diagnostic = error.diagnostic.down (first.toList.count '\n') := by
  obtain ⟨front, completed, appended⟩ := completed_of_endsStatement lexed read ends
  obtain ⟨header, headerCompleted, headerAppended⟩ := completed_package
  have header_eq : "package p\n" = "package p" ++ "\n" := rfl
  rw [header_eq]
  replace appended := appended second
  replace headerAppended := headerAppended second
  cases rest : Tokens.ofText ("\n" ++ second) with
  | error error =>
    rw [rest] at appended headerAppended
    rw [ofText_of_lexical appended, ofText_of_lexical headerAppended]
    refine ⟨fun later same => (by cases same), fun other same => ?_⟩
    cases same
    exact ⟨_, rfl, rfl⟩
  | ok later =>
    rw [rest] at appended headerAppended
    have proper := Tokens.proper_of_ofText appended
    have headerProper := Tokens.proper_of_ofText headerAppended
    rw [ofText_of_tokens appended, ofText_of_tokens headerAppended]
    rcases ofTokens_behind_down headerCompleted headerProper completed proper with
      ⟨decls, same, moved⟩ | ⟨error, other, same, moved, diagnostics⟩
    · rw [same, moved]
      refine ⟨fun found outcome => ?_, fun error outcome => (by cases outcome)⟩
      cases outcome
      rfl
    · rw [same, moved]
      refine ⟨fun found outcome => (by cases outcome), fun found outcome => ?_⟩
      cases outcome
      exact ⟨_, rfl, diagnostics⟩

/-- A struct behind a file of five lines -/
theorem ofText_behind_struct : ∃ tokens file later,
    Tokens.ofText "package a\n\nfunc f() \x7b\x7d\n\ntype A int" = .ok tokens ∧
    ofText "package a\n\nfunc f() \x7b\x7d\n\ntype A int" = .ok file ∧ tokens.EndsStatement ∧
    ofText "package p\ntype B struct \x7b\n\tC *A\n\x7d" = .ok later ∧
    ofText ("package a\n\nfunc f() \x7b\x7d\n\ntype A int" ++ "\n" ++ "type B struct \x7b\n\tC *A\n\x7d") =
      .ok ⟨file.package, file.decls ++ later.decls.map (TypeDecl.down 4)⟩ := by
  have ended : (Tokens.ofText "package a\n\nfunc f() \x7b\x7d\n\ntype A int").toOption.any
      (fun tokens => tokens.body.getLast?.any fun token => token.kind == .semicolon) = true := by
    decide +kernel
  cases lexed : Tokens.ofText "package a\n\nfunc f() \x7b\x7d\n\ntype A int" with
  | error error => simp [lexed, Except.toOption] at ended
  | ok tokens =>
    have ends : tokens.EndsStatement := by
      simpa [lexed, Except.toOption, Tokens.EndsStatement, Option.any_eq_true] using ended
    have read : ofText "package a\n\nfunc f() \x7b\x7d\n\ntype A int" = .ok ⟨"a", [⟨"A", ⟨5, 6⟩, false,
        .name "int"⟩]⟩ := by decide +kernel
    have later : ofText "package p\ntype B struct \x7b\n\tC *A\n\x7d" = .ok ⟨"p", [⟨"B", ⟨2, 6⟩, false,
        .struct [⟨["C"], ⟨3, 2⟩, .pointer (.name "A"), none⟩]⟩]⟩ := by decide +kernel
    exact ⟨tokens, _, _, rfl, read, ends, later, (ofText_behind lexed read ends _).1 _ later⟩

end SourceFile

end GoDto
