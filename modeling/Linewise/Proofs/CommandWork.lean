import Linewise.Command
import Linewise.Proofs.Logging
import Linewise.Proofs.ReferenceRun

/-! The work of a command, apart from its log and its report: what it should come to is said first, from the argument
and the files, and then that it prints and records just that. -/
namespace Linewise

/-- What a report has to tell: a failure, a fault nobody expected, and how many values there are. -/
structure Report.Tells (report : Report) (failure : Option Failure) (unexpected : Option Fault) (count : Int) :
    Prop where
  failure : report.failure = failure
  unexpected : report.unexpected = unexpected
  count : report.count = count

theorem Report.tells_startWith (now runId command : String) (sources : List String) :
    (startWith now runId command sources).Tells none none 0 := by
  unfold startWith
  simp only
  split <;> exact ⟨rfl, rfl, rfl⟩

namespace Command

/-- What a command calls its argument. -/
def argumentName : Command → String
  | parseArgument => "argument"
  | lines | numbers => "filename"

end Command

namespace Session

open Journal (Told)

/-- The pipeline of a command that reads a file. -/
def pipeline (session : Session) (command : Command) (transform : Option Transform) : Pipeline where
  transform := transform
  encoding := session.settings.encoding
  runId := session.runId
  channel := some (session.channel command)
  opener := LineReader.openFile

/-- The values a command has to print, or the fault that it ends with. -/
def result (session : Session) (command : Command) (transform : Option Transform) (argument : Option String)
    (files : FileTree) : Except Fault (List Value) :=
  match argument with
  | none => .error (.failed (.argument command.argumentName) none)
  | some argument =>
    match command with
    | .parseArgument => (Transform.run transform none argument).map ([·])
    | .lines | .numbers => ((session.pipeline command transform).gather files argument).result

/-- The work of a command. -/
def work (session : Session) (command : Command) (transform : Option Transform) (argument : Option String) :
    Report → Journal → Attempt :=
  match command with
  | .parseArgument => session.parseValue argument
  | .lines | .numbers => session.readFile command transform argument

end Session

/-- An attempt that prints a result and records it. -/
def Attempt.Shows (attempt : Attempt) : Except Fault (List Value) → Prop
  | .ok values =>
    attempt.result = .ok 0 ∧ attempt.out = String.join (values.map (echo ·.render)) ∧ attempt.err = "" ∧
      attempt.report.Tells none none values.length
  | .error fault =>
    match Failure.ofFault? fault with
    | some failure =>
      attempt.result = .ok 1 ∧ attempt.out = "" ∧ attempt.err = echo failure.message ∧
        attempt.report.Tells (some failure) none 0
    | none => attempt.result = .error fault ∧ attempt.out = "" ∧ attempt.report.Tells none none 0

namespace Session

open Journal (Told)

variable (session : Session)

theorem told_tell (command : Command) (journal : Journal) (level : Int) (component message : String) :
    Told (session.channel command) journal (session.tell command journal level component message) :=
  journal.told_emit _ _

theorem shows_fail {fault : Fault} {failure : Failure} (accounted : Failure.ofFault? fault = some failure)
    {report : Report} (clear : report.Tells none none 0) (journal : Journal) :
    (fail failure report journal).Shows (.error fault) := by
  simp only [Attempt.Shows, accounted]
  exact ⟨rfl, rfl, rfl, rfl, clear.unexpected, rfl⟩

theorem shows_crash {fault : Fault} (unaccounted : Failure.ofFault? fault = none) {report : Report}
    (clear : report.Tells none none 0) (journal : Journal) :
    Attempt.Shows ⟨.error fault, "", "", report, journal⟩ (.error fault) := by
  simp only [Attempt.Shows, unaccounted, true_and]
  exact clear

section

variable {session} {command : Command} {opened journal : Journal} (told : Told (session.channel command) opened journal)
  (path : String)

include told

/-- A file is read and its values are printed, or the failure is, or the fault passes through. -/
theorem readFile_shows (transform : Option Transform) {report : Report} (clear : report.Tells none none 0) :
    let attempt := session.readFile command transform (some path) report journal
    attempt.Shows ((session.pipeline command transform).gatherTold journal path).2.result ∧
      Told (session.channel command) opened attempt.journal := by
  have clear' : (report.readFrom (some path)).Tells none none 0 := ⟨clear.failure, clear.unexpected, clear.count⟩
  have ran := told.trans ((session.pipeline command transform).told_run rfl journal 0 path)
  simp only [readFile, Argument.first]
  cases collected : ((session.pipeline command transform).gatherTold journal path).2.result with
  | ok values =>
    have outcome := Pipeline.run_collected 0 collected
    simp only [pipeline] at outcome ran
    rw [outcome]
    exact ⟨⟨rfl, rfl, rfl, rfl, clear.unexpected, rfl⟩, ran⟩
  | error fault =>
    have outcome := Pipeline.run_stopped 0 collected
    simp only [pipeline] at outcome ran
    cases accounted : Failure.ofFault? fault with
    | some failure =>
      rw [accounted] at outcome
      rw [outcome]
      simp only [Option.isSome_some, if_true, Outcome.ofFailure, Option.bind_some, accounted]
      exact ⟨shows_fail accounted clear' _, ran⟩
    | none =>
      rw [accounted] at outcome
      rw [outcome]
      exact ⟨shows_crash accounted clear' _, ran⟩

/-- Telling about a run does not change what it reads, unless it reads its own log. -/
theorem gatherTold_eq (transform : Option Transform)
    (apart : ∀ location ∈ opened.logs (session.channel command), ∀ entry,
      opened.files.resolve path ≠ .ok (.entry location entry)) :
    ((session.pipeline command transform).gatherTold journal path).2 =
      (session.pipeline command transform).gather opened.files path := by
  have opening := told.trans ((session.pipeline command transform).told_tell rfl journal
    [(session.pipeline command transform).opening path])
  simp only [Pipeline.gatherTold, Pipeline.gather]
  simp only [pipeline, LineReader.openFile] at opening ⊢
  rw [opening.files.read apart]

end

theorem readFile_shows_missing {command : Command} (reads : command ≠ .parseArgument) (transform : Option Transform)
    {report : Report} (clear : report.Tells none none 0) {opened journal : Journal}
    (told : Told (session.channel command) opened journal) :
    let attempt := session.readFile command transform none report journal
    attempt.Shows (session.result command transform none opened.files) ∧
      Told (session.channel command) opened attempt.journal := by
  have named : session.result command transform none opened.files = .error (.failed (.argument "filename") none) := by
    cases command with
    | parseArgument => exact absurd rfl reads
    | lines | numbers => rfl
  rw [named]
  exact ⟨shows_fail rfl clear _, told.trans (session.told_tell _ _ _ _ _)⟩

theorem parseValue_shows (argument : Option String) {report : Report} (clear : report.Tells none none 0)
    {opened journal : Journal} (told : Told (session.channel .parseArgument) opened journal) :
    let attempt := session.parseValue argument report journal
    attempt.Shows (session.result .parseArgument (some (.integer .i32 false)) argument opened.files) ∧
      Told (session.channel .parseArgument) opened attempt.journal := by
  cases argument with
  | none =>
    refine ⟨shows_fail rfl clear _, ?_⟩
    exact told.trans (session.told_tell _ _ _ _ _)
  | some text =>
    have clear' : (report.readFrom (some text)).Tells none none 0 := ⟨clear.failure, clear.unexpected, clear.count⟩
    simp only [parseValue, Argument.first, result]
    cases made : Transform.run (some (.integer .i32 false)) none text with
    | ok value =>
      refine ⟨⟨rfl, ?_, rfl, rfl, clear.unexpected, rfl⟩, told⟩
      simp [String.join]
    | error fault =>
      simp only [Except.map]
      cases accounted : Failure.ofFault? fault with
      | some failure => exact ⟨shows_fail accounted clear' _, told.trans (session.told_tell _ _ _ _ _)⟩
      | none => exact ⟨shows_crash accounted clear' journal, told⟩

/-- The work of any command prints its result and records it. -/
theorem work_shows {command : Command} {transform : Option Transform}
    (agreed : command = .parseArgument → transform = some (.integer .i32 false)) (argument : Option String)
    {report : Report} (clear : report.Tells none none 0) {opened journal : Journal}
    (told : Told (session.channel command) opened journal)
    (apart : command ≠ .parseArgument → ∀ path, argument = some path →
      ∀ location ∈ opened.logs (session.channel command), ∀ entry,
        opened.files.resolve path ≠ .ok (.entry location entry)) :
    let attempt := session.work command transform argument report journal
    attempt.Shows (session.result command transform argument opened.files) ∧
      Told (session.channel command) opened attempt.journal := by
  cases command with
  | parseArgument =>
    rw [agreed rfl]
    exact session.parseValue_shows argument clear told
  | lines | numbers =>
    cases argument with
    | none => exact session.readFile_shows_missing (by decide) transform clear told
    | some path =>
      have shown := readFile_shows told path transform clear
      rw [gatherTold_eq told path transform (apart (by decide) path rfl)] at shown
      exact shown

end Session

end Linewise
