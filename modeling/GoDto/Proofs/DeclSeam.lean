import GoDto.Proofs.Acceptance
import Mathlib.Data.List.Basic

/-!
Declarations in front of more declarations. Where a file ends with a semicolon, other declarations
may follow it: those of the file are read as before, and then the others are read as if nothing
stood before them.
-/

namespace GoDto

namespace Grammar

/-- `(;* Decl ;)* ;*` -/
inductive Completed : List Token → List (List TypeDecl) → Prop where
  | none {blank : List Token} : Semicolons blank → Completed blank []
  | more {blank own rest : List Token} {semicolon : Token} {decls : List TypeDecl}
      {later : List (List TypeDecl)} : Semicolons blank → Decl own decls →
      semicolon.kind = .semicolon → Completed rest later →
      Completed (blank ++ (own ++ semicolon :: rest)) (decls :: later)

theorem decls_eq_nil {last : Token} {decls : List TypeDecl} (derives : Decls [last] decls) :
    decls = [] := by
  generalize same : [last] = tokens at derives
  cases derives with
  | none => rfl
  | @more blank own ending rest _ _ _ derived _ laterDerived =>
    obtain ⟨first, behind, rfl, -⟩ := derived.first
    obtain ⟨before, last, rfl⟩ := concat_of_decls laterDerived
    have lengths := congrArg List.length same
    simp at lengths
    omega

section
variable {own ending rest front : List Token} {decls : List TypeDecl} {semicolon last other : Token}

/-- Where a semicolon comes before the end of the file, what stands in front of the declarations is
up to that semicolon, or it ends with an earlier one. -/
theorem seam_of_ending (finished : Finished own) (ended : Ending ending rest)
    (derives : Decls rest decls) (whole : own ++ (ending ++ rest) = front ++ [semicolon, last])
    (kind : semicolon.kind = .semicolon) (inside : ∀ token ∈ front, token.kind ≠ .endOfFile) :
    own = front ∧ decls = [] ∨ ∃ token back, ending = [token] ∧ token.kind = .semicolon ∧
      rest = back ++ [semicolon, last] ∧ front = own ++ token :: back := by
  obtain ⟨back, mark, rfl⟩ := concat_of_decls derives
  have joined : (own ++ (ending ++ back)) ++ [mark] = (front ++ [semicolon]) ++ [last] := by
    simpa using whole
  obtain ⟨same, rfl⟩ := List.append_singleton_inj.1 joined
  rcases List.eq_nil_or_concat' back with rfl | ⟨back, closing, rfl⟩
  · refine .inl ⟨?_, decls_eq_nil derives⟩
    rcases ending_cases ended with ⟨token, rfl, -⟩ | ⟨rfl, -⟩
    · exact (List.append_singleton_inj.1 (by simpa using same)).1
    · obtain ⟨before, final, rfl, unfinished⟩ := finished
      obtain ⟨-, rfl⟩ : before = front ∧ final = semicolon :=
        List.append_singleton_inj.1 (by simpa using same)
      exact absurd kind unfinished
  · have split : (own ++ (ending ++ back)) ++ [closing] = front ++ [semicolon] := by simpa using same
    obtain ⟨rfl, rfl⟩ := List.append_singleton_inj.1 split
    rcases ending_cases ended with ⟨token, rfl, ends⟩ | ⟨rfl, ends⟩
    · exact .inr ⟨token, back, rfl, ends, by simp, by simp⟩
    · exfalso
      cases back with
      | nil => simp [kind] at ends
      | cons first back => exact inside first (by simp) (by simpa using ends)

/-- Where a semicolon comes before the end of the file, all declarations end with semicolons, and
that one may be any other. -/
theorem completed_of_decls {tokens : List Token} (derives : Decls tokens decls)
    (whole : tokens = front ++ [semicolon, last]) (kind : semicolon.kind = .semicolon)
    (otherKind : other.kind = .semicolon) (inside : ∀ token ∈ front, token.kind ≠ .endOfFile) :
    ∃ found, found.flatten = decls ∧ Completed (front ++ [other]) found := by
  induction derives generalizing front with
  | @none blank mark blanks _ =>
    have same : blank ++ [mark] = (front ++ [semicolon]) ++ [last] := by simpa using whole
    obtain ⟨rfl, -⟩ := List.append_singleton_inj.1 same
    refine ⟨[], rfl, .none fun token member => ?_⟩
    rcases List.mem_append.1 member with before | last
    · exact blanks token (List.mem_append_left _ before)
    · rw [List.mem_singleton.1 last]
      exact otherKind
  | @more blank own ending rest decls others blanks derived ended laterDerived ih =>
    have joined : (blank ++ own) ++ (ending ++ rest) = front ++ [semicolon, last] := by
      simpa using whole
    rcases seam_of_ending (derived.finished.append blank) ended laterDerived joined kind inside with
      ⟨rfl, rfl⟩ | ⟨token, back, rfl, ends, rfl, rfl⟩
    · refine ⟨[decls], by simp, ?_⟩
      rw [List.append_assoc]
      exact .more blanks derived otherKind (.none semicolons_nil)
    · obtain ⟨found, rfl, completed⟩ := ih rfl fun token member => inside token (by simp [member])
      refine ⟨decls :: found, rfl, ?_⟩
      simpa using Completed.more blanks derived ends completed

end

/-- `;* package Ident ; (;* Decl ;)* ;*` -/
inductive CompletedFile : List Token → SourceFile → Prop where
  | intro {blank rest : List Token} {keyword name semicolon : Token} {found : List (List TypeDecl)} :
      Semicolons blank → keyword.IsKeyword "package" → name.kind = .identifier →
      semicolon.kind = .semicolon → Completed rest found →
      CompletedFile (blank ++ (keyword :: name :: semicolon :: rest)) ⟨name.text, found.flatten⟩

theorem completedFile_of_file {front : List Token} {file : SourceFile} {semicolon last other : Token}
    (derives : File (front ++ [semicolon, last]) file) (kind : semicolon.kind = .semicolon)
    (otherKind : other.kind = .semicolon) (inside : ∀ token ∈ front, token.kind ≠ .endOfFile) :
    CompletedFile (front ++ [other]) file := by
  generalize whole : front ++ [semicolon, last] = tokens at derives
  obtain @⟨blank, ending, rest, keyword, name, decls, blanks, package, identifier, ended, derived⟩ :=
    derives
  have joined : (blank ++ [keyword, name]) ++ (ending ++ rest) = front ++ [semicolon, last] := by
    simpa using whole.symm
  have finished : Finished (blank ++ [keyword, name]) :=
    ((finished_singleton (by simp [identifier])).cons keyword).append blank
  rcases seam_of_ending finished ended derived joined kind inside with
    ⟨rfl, rfl⟩ | ⟨token, back, rfl, ends, rfl, rfl⟩
  · have nothing : Completed [] [] := .none semicolons_nil
    simpa using CompletedFile.intro blanks package identifier otherKind nothing
  · obtain ⟨found, rfl, completed⟩ := completed_of_decls derived rfl kind otherKind
      fun token member => inside token (by simp [member])
    simpa using CompletedFile.intro blanks package identifier ends completed

end Grammar

namespace Reader

open Grammar

variable {final : Token} {front later : List Token}

theorem many_nextDecl_ne_exhausted (ends : final.kind = .endOfFile) (rest : List Token) :
    many nextDecl final rest ≠ .exhausted := by
  have takes : (many nextDecl).Takes final (fun _ => 0) (rest.length + 1) := by
    apply takes_many
    refine takes_bind takes_semicolons fun _ => ?_
    refine takes_bind takes_atEnd fun ended => ?_
    split
    · exact takes_pure _ _ rfl
    · exact takes_bind (takes_decl ends) fun _ => takes_pure _ _ (by simp)
  intro outcome
  have settled := takes rest (Nat.lt_succ_self _)
  rw [outcome] at settled
  exact settled

theorem many_nextDecl_semicolons (ends : final.kind = .endOfFile) (blank : Semicolons front) :
    many nextDecl final (front ++ later) = many nextDecl final later := by
  have next : nextDecl final (front ++ later) = nextDecl final later := by
    have skipped : semicolons final (front ++ later) = semicolons final later := by
      unfold semicolons
      rw [List.dropWhile_append_of_pos fun token member => by simp [blank token member]]
    unfold nextDecl
    rw [bind_apply, bind_apply, skipped]
  have longer : manyWithin nextDecl (final :: (front ++ later)) final later =
      many nextDecl final later :=
    manyWithin_longer (many_nextDecl_ne_exhausted ends later) (by simp)
  rw [← longer]
  change manyWithin nextDecl (final :: (front ++ later)) final (front ++ later) = _
  unfold manyWithin
  rw [bind_apply, bind_apply, next]

/-- Completed declarations are read, and then what follows them is. -/
theorem many_nextDecl_append (ends : final.Ends) {found : List (List TypeDecl)}
    (completed : Completed front found) (inner : ∀ token ∈ front ++ later, token.Inner) :
    many nextDecl final (front ++ later) =
      (many nextDecl >>= fun more => pure (found ++ more)) final later := by
  induction completed with
  | none blanks =>
    rw [many_nextDecl_semicolons ends.kind blanks]
    simp
  | @more blank own rest semicolon decls found blanks derived kind _ ih =>
    have read : nextDecl.Reads final (blank ++ (own ++ [semicolon])) (rest ++ later) (some decls) :=
      reads_nextDecl ends blanks derived (.semicolon kind)
    have settled := many_nextDecl_ne_exhausted ends.kind (rest ++ later)
    have next := many_of_reads (by simp) read settled fun token member =>
      (inner token (by simpa using member)).readable
    have others := ih fun token member => inner token (by simp at member ⊢; grind)
    simp only [List.append_assoc, List.cons_append, List.nil_append] at next ⊢
    calc
      many nextDecl final (blank ++ (own ++ semicolon :: (rest ++ later)))
      _ = (many nextDecl >>= fun more => pure (decls :: more)) final (rest ++ later) := next
      _ = ((many nextDecl >>= fun more => pure (found ++ more)) >>= fun more =>
            pure (decls :: more)) final later := by
        rw [bind_apply, others, ← bind_apply]
      _ = (many nextDecl >>= fun more => pure (decls :: found ++ more)) final later := by
        simp

/-- `;* package Ident End` -/
def packageClause : Reader Token := do
  semicolons
  require "package"
  let package ← identifier
  declEnd
  pure package

theorem file_eq : file = packageClause >>= fun package =>
    many nextDecl >>= fun decls => pure ⟨package.text, decls.flatten⟩ := by
  simp [file, packageClause]

/-- A file that ends with a semicolon goes on with whatever declarations follow. -/
theorem file_append (ends : final.Ends) {found : SourceFile} (completed : CompletedFile front found)
    (inner : ∀ token ∈ front ++ later, token.Inner) : file final (front ++ later) =
      (many nextDecl >>= fun more => pure ⟨found.package, found.decls ++ more.flatten⟩) final later := by
  obtain @⟨blank, rest, keyword, name, semicolon, decls, blanks, package, identifier, kind, completed⟩ :=
    completed
  have innerRest : ∀ token ∈ rest ++ later, token.Inner :=
    fun token member => inner token (by simp at member ⊢; grind)
  have others := many_nextDecl_append ends completed innerRest
  have clause : packageClause.Reads final (blank ++ (keyword :: name :: [semicolon])) (rest ++ later)
      name := by
    apply reads_bind (reads_semicolons blanks (by simp [package.1]))
    refine reads_require package.is (reads_identifier identifier ?_)
    exact reads_bind_nil (reads_declEnd (.semicolon kind)) reads_pure
  have read := clause fun token member => (inner token (by simpa using member)).readable
  simp only [List.append_assoc, List.cons_append, List.nil_append] at read ⊢
  calc
    file final (blank ++ keyword :: name :: semicolon :: (rest ++ later))
    _ = (many nextDecl >>= fun decls => pure ⟨name.text, decls.flatten⟩) final (rest ++ later) := by
      rw [file_eq, bind_of_done read]
    _ = ((many nextDecl >>= fun more => pure (decls ++ more)) >>= fun decls =>
          pure ⟨name.text, decls.flatten⟩) final later := by
      rw [bind_apply, others, ← bind_apply]
    _ = (many nextDecl >>= fun more => pure ⟨name.text, decls.flatten ++ more.flatten⟩) final
          later := by
      simp

end Reader

end GoDto
