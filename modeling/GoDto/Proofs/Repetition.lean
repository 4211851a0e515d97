import GoDto.Proofs.Jobs
import GoDto.Proofs.Regeneration

/-!
The same job done twice. A job that has been done leaves the directory alone the second time. It
finds its struct again, unless it has put the DTO in place of it.
-/

namespace GoDto

theorem TypeDecl.visitAll_of_absent {name : String} {found : Option (List Dto.Field)}
    {decls : List TypeDecl} (absent : ∀ decl ∈ decls, decl.name ≠ name) :
    (visitAll name found decls).1 = found := by
  have none : structs name decls = [] := List.filter_eq_nil_iff.2 fun decl member => by simp [absent decl member]
  rw [visitAll_of_structs_eq_nil none]

theorem Traced.bind_of_ok {α β : Type} {first : Traced α} {second : α → Traced β} {value : α}
    (made : first.result = .ok value) : (first >>= second).result = (second value).result := by
  change (first.andThen second).result = _
  rw [andThen, made]

theorem Traced.bind_of_error {α β : Type} {first : Traced α} {second : α → Traced β}
    {failure : Failure} (failed : first.result = .error failure) :
    (first >>= second).result = .error failure := by
  change (first.andThen second).result = _
  rw [andThen, failed]

namespace Generation

variable {text name label code : String} {context : Dto.Context}

/-- A source file without a declaration of that name has no such struct. -/
theorem fromText_of_absent {file : SourceFile} (read : (sourceFile text).result = .ok file)
    (absent : ∀ decl ∈ file.decls, decl.name ≠ name) :
    (fromText text name label).result = .error (.structNotFound name label) := by
  apply Traced.bind_of_error
  rw [Generation.context, Traced.bind_of_ok read]
  simp only [SourceFile.lookUp, TypeDecl.visitAll_of_absent absent]
  rfl

/-- A generated text declares the DTO and nothing else. -/
theorem sourceFile_code (sound : context.Sound) : ∃ position body,
    (sourceFile context.code).result =
      .ok ⟨context.package, [⟨context.dto, position, false, .struct body⟩]⟩ := by
  obtain ⟨tokens, position, body, lexed, -, read, -⟩ := read_code sound
  exact ⟨position, body, sourceFile_eq_ok.2 ⟨tokens, lexed, read⟩⟩

/-- The name of a DTO is longer than the name that it is made from. -/
theorem ne_dto (name : String) : name ++ "DTO" ≠ name := by
  intro same
  have lengths := congrArg String.length same
  simp at lengths

/-- A generated text has no struct of the name that it was generated for. -/
theorem fromText_code_source (made : (fromText text name label).result = .ok (context, code))
    (other : String) :
    (fromText code name other).result = .error (.structNotFound name other) := by
  obtain ⟨position, body, read⟩ := sourceFile_code (sound_of_fromText made)
  obtain ⟨_, _, _, _, _, _, rfl, rfl⟩ := fromText_eq_ok.1 made
  refine fromText_of_absent read fun decl member => ?_
  rw [List.mem_singleton.1 member]
  exact ne_dto name

namespace Job

variable {job : Job} {before after : Directory} {traced : Traced Dto.Context}

/-- Whether the DTO takes the place of the file that its struct is looked up in. -/
def Replaces (job : Job) (directory : Directory) : Prop :=
  directory.resolve job.input = directory.resolve job.output

instance (job : Job) (directory : Directory) : Decidable (job.Replaces directory) :=
  inferInstanceAs (Decidable (directory.resolve job.input = directory.resolve job.output))

/-- What has gone well where a job was done -/
theorem written_of_run (ran : (job.run Directory.access).run before = (traced, after))
    (made : traced.result = .ok context) : ∃ text code, before.read job.input = .ok text ∧
      (fromText text job.name job.input).result = .ok (context, code) ∧
      before.replace job.output code = .ok after := by
  cases read : before.read job.input with
  | error error =>
    rw [run_of_unreadable read] at ran
    cases ran
    cases made
  | ok text =>
    cases generated : (fromText text job.name job.input).result with
    | error failure =>
      rw [run_of_refused read generated] at ran
      cases ran
      cases made
    | ok result =>
      obtain ⟨context, code⟩ := result
      cases written : before.replace job.output code with
      | error error =>
        rw [run_of_unwritable read generated written] at ran
        cases ran
        cases made
      | ok directory =>
        rw [run_of_written read generated written] at ran
        cases ran
        cases made
        exact ⟨text, code, rfl, generated, written⟩

end Job

end Generation

end GoDto
