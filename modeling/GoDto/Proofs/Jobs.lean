import GoDto.Generation.FromFile
import GoDto.Proofs.Places

/-!
Jobs done one after another in a directory. A job that fails is as good as not done. Any other
fills its output file, and nothing else happens to the directory.
-/

namespace GoDto

namespace Traced

variable {α β : Type}

/-- The events that are told in any case. -/
def notices (traced : Traced α) : List Event := traced.events.filter (·.level = .info)

theorem notices_bind {first : Traced α} {second : α → Traced β} (quiet : first.notices = [])
    (next : ∀ result, (second result).notices = []) : (first >>= second).notices = [] := by
  change (first.andThen second).notices = []
  unfold andThen
  cases first.result with
  | error failure => exact quiet
  | ok result =>
    simp only [notices, List.filter_append]
    exact List.append_eq_nil_iff.2 ⟨quiet, next result⟩

end Traced

theorem FieldDecl.quiet_events (decl : FieldDecl GoType) :
    ∀ event ∈ decl.events, event.level ≠ .info := by
  intro event member
  rcases List.mem_append.1 member with unsupported | taken
  · split at unsupported
    · rw [List.mem_singleton.1 unsupported]
      simp [Event.level]
    · cases unsupported
  · obtain ⟨name, -, rfl⟩ := List.mem_map.1 taken
    simp [Event.level]

theorem TypeDecl.quiet_visit (decl : TypeDecl) (name : String) (found : Option (List Dto.Field)) :
    ∀ event ∈ (decl.visit name found).2, event.level ≠ .info := by
  unfold visit
  intro event member
  split at member
  · split at member
    · next body type =>
      simp only [List.mem_append, List.mem_flatMap, List.mem_singleton] at member
      rcases member with (again | ⟨field, -, taken⟩) | rfl
      · split at again
        · rw [List.mem_singleton.1 again]
          simp [Event.level]
        · cases again
      · exact field.quiet_events event taken
      · simp [Event.level]
    · rw [List.mem_singleton.1 member]
      simp [Event.level]
  · cases member

theorem TypeDecl.quiet_visitAll (name : String) (found : Option (List Dto.Field))
    (decls : List TypeDecl) : ∀ event ∈ (visitAll name found decls).2, event.level ≠ .info := by
  induction decls generalizing found with
  | nil =>
    intro event member
    cases member
  | cons decl decls ih =>
    intro event member
    rcases List.mem_append.1 member with first | later
    · exact decl.quiet_visit name found event first
    · exact ih _ event later

namespace Generation

/-- Making a DTO from a text is not told, whether it fails or not. -/
theorem notices_fromText (text name label : String) : (fromText text name label).notices = [] := by
  refine Traced.notices_bind ?_ fun context => rfl
  refine Traced.notices_bind ?_ fun file => ?_
  · unfold sourceFile
    split
    · rfl
    · refine Traced.notices_bind rfl fun _ => ?_
      split
      · rfl
      · exact Traced.notices_bind rfl fun _ => rfl
  · refine Traced.notices_bind ?_ fun _ => ?_
    · refine List.filter_eq_nil_iff.2 fun event member => ?_
      simpa using TypeDecl.quiet_visitAll name none file.decls event member
    · split <;> rfl

/-- A struct to be found in one file, and another file for its DTO. The two may be the same. -/
structure Job where
  input : String
  output : String
  name : String

namespace Job

variable {m : Type → Type} [Monad m]

def run (files : FileAccess m) (job : Job) : m (Traced Dto.Context) :=
  fromFile files job.input job.output job.name

/-- Each job in turn, whether those before it have failed or not. -/
def runAll (files : FileAccess m) (jobs : List Job) : m (List (Traced Dto.Context)) :=
  jobs.mapM (run files)

/-- Why a job cannot be done in a directory. -/
inductive Fails (job : Job) (directory : Directory) : Failure → Prop where
  | unreadable {error : FileError} : directory.read job.input = .error error →
      Fails job directory (.file error)
  | refused {text : String} {failure : Failure} : directory.read job.input = .ok text →
      (fromText text job.name job.input).result = .error failure → Fails job directory failure
  | unwritable {text code : String} {context : Dto.Context} {error : FileError} :
      directory.read job.input = .ok text →
      (fromText text job.name job.input).result = .ok (context, code) →
      directory.replace job.output code = .error error → Fails job directory (.file error)

/-- The output file holds the code that is made from what the input file held before, and nothing
else differs. -/
inductive Fills (job : Job) (before : Directory) (context : Dto.Context) (after : Directory) :
    Prop where
  | intro {text code : String} {place : List String} : before.read job.input = .ok text →
      (fromText text job.name job.input).result = .ok (context, code) →
      before.resolve job.output = .ok place → after.entry? place = some (.file code.toUTF8) →
      (∀ other, other ≠ place → after.entry? other = before.entry? other) →
      (∀ path, before.resolve path = .ok place → Directory.namesFolder path = false →
        after.read path = .ok code) → Fills job before context after

/-- What a single job does to a directory, with what it reports. -/
inductive Step (job : Job) (before : Directory) : Traced Dto.Context → Directory → Prop where
  | failed {traced : Traced Dto.Context} {failure : Failure} : traced.result = .error failure →
      job.Fails before failure → traced.notices = [] → Step job before traced before
  | filled {traced : Traced Dto.Context} {context : Dto.Context} {after : Directory} :
      traced.result = .ok context → job.Fills before context after →
      traced.notices = [.wrote context.dto job.input job.output context.fields.length] →
      Step job before traced after

/-- What jobs in turn do to a directory, with what each of them reports. -/
inductive Steps : Directory → List Job → List (Traced Dto.Context) → Directory → Prop where
  | none (directory : Directory) : Steps directory [] [] directory
  | next {job : Job} {jobs : List Job} {before middle after : Directory}
      {traced : Traced Dto.Context} {later : List (Traced Dto.Context)} :
      job.Step before traced middle → Steps middle jobs later after →
      Steps before (job :: jobs) (traced :: later) after

section
variable {job : Job} {before after : Directory} {text code : String} {context : Dto.Context}
  {failure : Failure} {error : FileError}

theorem run_of_unreadable (read : before.read job.input = .error error) :
    (job.run Directory.access).run before = (.fail (.file error), before) := by
  simp only [run, fromFile, Directory.access, bind_pure_comp, StateT.run_bind, StateT.run_map,
    StateT.run_get, pure_bind, map_pure, read]
  rfl

theorem run_of_refused (read : before.read job.input = .ok text)
    (refused : (fromText text job.name job.input).result = .error failure) :
    (job.run Directory.access).run before =
      (⟨(fromText text job.name job.input).events, .error failure⟩, before) := by
  simp only [run, fromFile, Directory.access, bind_pure_comp, StateT.run_bind, StateT.run_map,
    StateT.run_get, pure_bind, map_pure, read, refused]
  rfl

theorem run_of_unwritable (read : before.read job.input = .ok text)
    (made : (fromText text job.name job.input).result = .ok (context, code))
    (refused : before.replace job.output code = .error error) :
    (job.run Directory.access).run before =
      (⟨(fromText text job.name job.input).events, .error (.file error)⟩, before) := by
  simp only [run, fromFile, Directory.access, bind_pure_comp, StateT.run_bind, StateT.run_map,
    StateT.run_get, pure_bind, map_pure, read, made, refused]
  rfl

theorem run_of_written (read : before.read job.input = .ok text)
    (made : (fromText text job.name job.input).result = .ok (context, code))
    (written : before.replace job.output code = .ok after) :
    (job.run Directory.access).run before = (⟨(fromText text job.name job.input).events ++
      [.wrote context.dto job.input job.output context.fields.length], .ok context⟩, after) := by
  simp only [run, fromFile, Directory.access, bind_pure_comp, StateT.run_bind, StateT.run_map,
    StateT.run_get, pure_bind, map_pure, read, made, written]
  rfl

end

theorem step_run (job : Job) (directory : Directory) :
    job.Step directory ((job.run Directory.access).run directory).1
      ((job.run Directory.access).run directory).2 := by
  cases read : directory.read job.input with
  | error error =>
    rw [run_of_unreadable read]
    exact .failed rfl (.unreadable read) rfl
  | ok text =>
    have quiet := notices_fromText text job.name job.input
    cases made : (fromText text job.name job.input).result with
    | error failure =>
      rw [run_of_refused read made]
      exact .failed rfl (.refused read made) quiet
    | ok generated =>
      obtain ⟨context, code⟩ := generated
      cases written : directory.replace job.output code with
      | error error =>
        rw [run_of_unwritable read made written]
        exact .failed rfl (.unwritable read made written) quiet
      | ok after =>
        obtain ⟨place, resolved, filled, others, readable⟩ := Directory.read_of_replace written
        rw [run_of_written read made written]
        refine .filled rfl (.intro read made resolved filled others readable) ?_
        simp only [Traced.notices, List.filter_append] at quiet ⊢
        rw [quiet]
        rfl

theorem runAll_cons (job : Job) (jobs : List Job) (directory : Directory) :
    (runAll Directory.access (job :: jobs)).run directory =
      (((job.run Directory.access).run directory).1 ::
        ((runAll Directory.access jobs).run ((job.run Directory.access).run directory).2).1,
      ((runAll Directory.access jobs).run ((job.run Directory.access).run directory).2).2) := by
  simp only [runAll, List.mapM_cons, StateT.run_bind]
  rfl

/-- The first job replaces its own input, which the second one no longer finds its struct in. -/
example : (((runAll Directory.access
    [⟨"a.go", "./a.go", "A"⟩, ⟨"a.go", "b.go", "A"⟩, ⟨"a.go", "b.go", "ADTO"⟩]).run
      ⟨[(["a.go"], .file "package p\ntype A struct \x7b X int \x7d".toUTF8)]⟩).1.map
        fun traced => traced.result.toOption.isSome) = [true, false, true] := by
  decide +kernel

end Job

end Generation

end GoDto
