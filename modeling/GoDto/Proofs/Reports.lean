import GoDto.CommandLine.Session
import GoDto.Proofs.Repetition

/-!
What a run of the command reports, set beside the job that it does. Words that ask for no job leave the
directory alone. Otherwise the report tells how the job went, and what it prints is made from what the
input file held before.
-/

namespace GoDto

namespace Generation

variable {text name label code : String} {context : Dto.Context}

/-- What is made from a text does not depend on its label. -/
theorem fromText_of_label (made : (fromText text name label).result = .ok (context, code))
    (other : String) : (fromText text name other).result = .ok (context, code) :=
  fromText_eq_ok.2 (fromText_eq_ok.1 made)

/-- The document of a text is that of the context which its code is made from. -/
theorem document_of_fromText (made : (fromText text name label).result = .ok (context, code)) :
    (document text name).result = .ok context.document := by
  obtain ⟨tokens, file, fields, lexed, read, found, same, -⟩ := fromText_eq_ok.1 made
  have source := sourceFile_eq_ok.2 ⟨tokens, lexed, read⟩
  exact Traced.bind_eq_ok.2 ⟨context, context_eq_ok.2 ⟨file, fields, source, found, same⟩, rfl⟩

end Generation

namespace CommandLine

open Generation

def Arguments.job (arguments : Arguments) : Job :=
  ⟨arguments.input, arguments.output, arguments.typeName⟩

/-- What is printed where a job goes well, and what is found in the output file. All of it comes from the
text in the input file before. -/
structure Printed (arguments : Arguments) (before : Directory) (context : Dto.Context) (report : Report)
    (after : Directory) : Prop where
  made : ∃ text code, before.read arguments.input = .ok text ∧
    (∀ label, (fromText text arguments.typeName label).result = .ok (context, code)) ∧
    (document text arguments.typeName).result = .ok context.document ∧
    after.read arguments.output = .ok code
  fills : arguments.job.Fills before context after
  output : report.output = (if arguments.emitJson then context.document ++ "\n" else "") ++
    ("DTO generated at " ++ arguments.output ++ "\n")
  complaint : report.complaint = none

/-- What is reported where a job fails, which leaves the directory as it was -/
structure Complained (before : Directory) (failure : Failure) (report : Report) (after : Directory) :
    Prop where
  exitCode : report.exitCode = 1
  output : report.output = ""
  complaint : report.complaint = some ("Error: " ++ failure.text)
  unchanged : after = before

/-- Whether a report and the directory behind it are what became of a job -/
structure Tells (arguments : Arguments) (before : Directory) (traced : Traced Dto.Context)
    (report : Report) (after : Directory) : Prop where
  exitCode : report.exitCode = 0 ↔ ∃ context, traced.result = .ok context
  done : ∀ context, traced.result = .ok context → Printed arguments before context report after
  failed : ∀ failure, traced.result = .error failure → Complained before failure report after

/-- What words make of a directory, with what is reported -/
inductive Ran (words : List String) (before : Directory) : Report → Directory → Prop where
  | misused {error : UsageError} : Request.ofWords words = .error error →
      Ran words before (.misuse error) before
  | helped : Request.ofWords words = .ok .help → Ran words before .help before
  | generated {arguments : Arguments} {traced : Traced Dto.Context} {report : Report}
      {after : Directory} : Request.ofWords words = .ok (.generate arguments) →
      (arguments.job.run Directory.access).run before = (traced, after) →
      Tells arguments before traced report after → Ran words before report after

section
variable {words : List String} {arguments : Arguments} {before after : Directory}
  {traced : Traced Dto.Context}

theorem run_of_misused {error : UsageError} (misused : Request.ofWords words = .error error) :
    (run Directory.access words).run before = (.misuse error, before) := by
  rw [run, misused]
  rfl

theorem run_of_helped (helped : Request.ofWords words = .ok .help) :
    (run Directory.access words).run before = (.help, before) := by
  rw [run, helped]
  rfl

theorem run_of_generated (asked : Request.ofWords words = .ok (.generate arguments))
    (ran : (arguments.job.run Directory.access).run before = (traced, after)) :
    (run Directory.access words).run before = (.ofGeneration arguments traced, after) := by
  change (fromFile Directory.access _ _ _).run before = _ at ran
  simp only [run, asked, StateT.run_bind, Arguments.job] at ran ⊢
  rw [ran]
  rfl

theorem printed_of_run {context : Dto.Context}
    (ran : (arguments.job.run Directory.access).run before = (traced, after))
    (made : traced.result = .ok context) :
    Printed arguments before context (.ofGeneration arguments traced) after := by
  obtain ⟨text, code, read, generated, written⟩ := Job.written_of_run ran made
  obtain ⟨place, resolved, filled, others, readable⟩ := Directory.read_of_replace written
  obtain ⟨-, -, plain, -⟩ := Directory.replace_eq_ok written
  constructor
  · refine ⟨text, code, read, fromText_of_label generated, document_of_fromText generated, ?_⟩
    exact readable arguments.output resolved plain
  · exact .intro read generated resolved filled others readable
  · simp only [Report.ofGeneration, made, String.append_assoc]
  · simp only [Report.ofGeneration, made]

theorem complained_of_run {failure : Failure}
    (ran : (arguments.job.run Directory.access).run before = (traced, after))
    (failed : traced.result = .error failure) :
    Complained before failure (.ofGeneration arguments traced) after := by
  have step := Job.step_run arguments.job before
  rw [ran] at step
  simp only at step
  cases step with
  | failed => constructor <;> simp only [Report.ofGeneration, failed]
  | filled made => simp [failed] at made

theorem tells_of_run (ran : (arguments.job.run Directory.access).run before = (traced, after)) :
    Tells arguments before traced (.ofGeneration arguments traced) after where
  exitCode := by
    unfold Report.ofGeneration
    cases traced.result <;> simp
  done _ made := printed_of_run ran made
  failed _ failed := complained_of_run ran failed

end

end CommandLine

end GoDto
