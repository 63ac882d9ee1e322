import Linewise.Proofs.FailedOutput

/-! What becomes of a run's channel. It is closed at the very end, whatever the work came to, but behind the report: a
run whose report cannot be written leaves its channel as it is, with the log file open. -/
namespace Linewise

/-- A channel has no sink of its own left. -/
def Journal.Released (journal : Journal) (name : String) : Prop :=
  ∀ channel, journal.find? name = some channel → channel.own = []

theorem Journal.released_close (journal : Journal) (name : String) : (journal.close name).Released name :=
  fun _ found => own_of_close found

namespace Session

variable {session : Session} {command : Command} {journal opened : Journal} {logFile : Option String}

/-- Writing the report is told through the channels that are there. -/
theorem channels_conclude (session : Session) (surroundings : Surroundings) (command : Command)
    (logFile : Option String) (report : Report) (journal : Journal) :
    (session.conclude surroundings command logFile report journal).1.channels = journal.channels := by
  unfold conclude
  split
  · rfl
  · rfl
  · split
    · rfl
    · simp only
      split
      · rfl
      · exact (session.told_tell command _ _ _ _).channels

/-- The work of a command leaves the channels alone. -/
theorem channels_attempt (session : Session) (surroundings : Surroundings) {transform : Option Transform}
    (agreed : command = .parseArgument → transform = some (.integer .i32 false)) (journal : Journal)
    (argument : Option String) :
    (session.attempt surroundings command journal (session.work command transform argument)).journal.channels =
      (session.opened command journal).channels :=
  (session.attempt_shows surroundings agreed journal argument).2.channels

section

variable (surroundings : Surroundings) (work : Report → Journal → Attempt)
  (created : journal.create command.name session.settings.logDirectory session.runId session.settings.logLevel =
    (opened, .ok logFile))

include created

/-- A run whose report is written, or that has none to write, ends as its work did and closes its channel. -/
theorem run_of_reported
    (reported : ∀ fault, ¬ session.ReportFails surroundings command
      (session.ended command (session.attempt surroundings command journal work)).files fault) :
    (session.run surroundings command journal work).ending =
        (session.attempt surroundings command journal work).ending ∧
      (session.run surroundings command journal work).journal.Released (session.channel command) := by
  rw [run_of_created created]
  generalize session.attempt surroundings command journal work = attempt at reported ⊢
  simp only
  split
  next after fault stopped =>
    refine absurd ?_ (reported fault)
    apply (conclude_fault_iff logFile attempt.lastReport (.refl _ _)).mp
    rw [stopped]
  next after concluded => exact ⟨rfl, after.released_close _⟩

/-- A run whose report cannot be written stops there, with all the channels as its work left them. -/
theorem run_of_unreported {fault : Fault}
    (unreported : session.ReportFails surroundings command
      (session.ended command (session.attempt surroundings command journal work)).files fault) :
    (session.run surroundings command journal work).ending = .crash fault ∧
      (session.run surroundings command journal work).journal.channels =
        (session.attempt surroundings command journal work).journal.channels := by
  rw [run_of_created created]
  generalize session.attempt surroundings command journal work = attempt at unreported ⊢
  have stopped := (conclude_fault_iff logFile attempt.lastReport (.refl _ _)).mpr unreported
  have left := (session.channels_conclude surroundings command logFile attempt.lastReport
    (session.ended command attempt)).trans (session.told_ended command attempt).channels
  simp only
  split
  next after cause concluded =>
    rw [concluded] at stopped left
    exact ⟨congrArg Ending.crash (Option.some.inj stopped), left⟩
  next after concluded =>
    rw [concluded] at stopped
    cases stopped

/-- A channel that still has what it was made with is not released. -/
theorem not_released_of_created {later : Journal} (same : later.channels = opened.channels) :
    ¬ later.Released (session.channel command) := by
  intro released
  obtain ⟨level, sink, kept, found⟩ := (Journal.created_of_create created).sink
  have there : later.find? (session.channel command) = some ⟨session.channel command, level, [sink]⟩ := by
    rw [Journal.find?, same]
    exact found
  have bare := released _ there
  simp [Channel.own, kept] at bare

end

/-- Once its channel is made, a run releases it at the end, whatever the work was and came to, unless the report that
there is to be cannot be written. In that case the run crashes and all channels are as the work left them: if it did
not touch them, the run's own is not released, and its log file is still open. -/
theorem released_unless_unreported (session : Session) (surroundings : Surroundings) (command : Command)
    (journal opened : Journal) (logFile : Option String) (work : Report → Journal → Attempt)
    (created : journal.create command.name session.settings.logDirectory session.runId session.settings.logLevel =
      (opened, .ok logFile)) :
    let attempt := session.attempt surroundings command journal work
    let finish := session.run surroundings command journal work
    let unreported := session.ReportFails surroundings command (session.ended command attempt).files
    ((∀ fault, ¬ unreported fault) →
        finish.ending = attempt.ending ∧ finish.journal.Released (session.channel command)) ∧
      ∀ fault, unreported fault →
        finish.ending = .crash fault ∧ finish.journal.channels = attempt.journal.channels ∧
          (attempt.journal.channels = opened.channels →
            ¬ finish.journal.Released (session.channel command) ∧
              finish.journal.logs (session.channel command) = opened.logs (session.channel command)) := by
  -- The run is never unfolded here: with the names gone, its two ways out are the lemmas above.
  dsimp only
  constructor
  · exact run_of_reported surroundings work created
  · intro fault fails
    obtain ⟨ending, left⟩ := run_of_unreported surroundings work created fails
    refine ⟨ending, left, ?_⟩
    intro untouched
    have same := left.trans untouched
    exact ⟨not_released_of_created created same, Journal.logs_congr same _⟩

/-- A file stands where the directory of the report is to be: the command crashes, and its log file stays open. -/
theorem log_left_open_unreported :
    let journal : Journal := ⟨⟨[(["f"], .file [0x61, 0x0A]), (["r"], .file [0x78])], []⟩, [], "now"⟩
    let surroundings : Surroundings := ⟨[], "now", "fresh", 100, 100.25⟩
    let session : Session := ⟨"fresh", ⟨"INFO", some "logs", some "r", "utf-8"⟩, ["cli"], none⟩
    let finish := Command.invoke surroundings journal ["--log-dir", "logs", "--report-dir", "r", "lines", "f"]
    ∃ fault, fault.message = "[Errno 17] File exists: 'r'" ∧ finish.ending = .crash fault ∧
      ¬ finish.journal.Released (session.channel .lines) ∧
      finish.journal.logs (session.channel .lines) = [["logs", "lines_fresh.log"]] := by
  intro journal surroundings session finish
  let arguments := ["--log-dir", "logs", "--report-dir", "r", "lines", "f"]
  have starts : Command.Starts surroundings journal arguments .lines session none (some "f") := by
    let words : Words := ⟨[("--log-dir", "logs"), ("--report-dir", "r")], false, ["lines", "f"]⟩
    have parsed : Words.parse Command.sharedRules arguments = .ok words := by decide +kernel
    have settled : Settings.load journal.files surroundings.environment (words.value? "--config")
        (Command.overrides words) = .ok ⟨session.settings, session.sources⟩ := eq_ok_of_toOption (by decide +kernel)
    have own : Words.parse Command.lines.rules ["f"] = .ok ⟨[], false, ["f"]⟩ := by decide +kernel
    have named : Command.runIdOf surroundings words = "fresh" := by decide +kernel
    have unset : words.value? "--config" = none := by decide +kernel
    have starts := Command.Starts.mk parsed rfl rfl settled own rfl (by decide) rfl
    rw [named, unset] at starts
    exact starts
  have created : journal.create "lines" (some "logs") "fresh" "INFO" =
      (session.opened .lines journal, .ok (some "logs/lines_fresh.log")) :=
    Prod.ext rfl (eq_ok_of_toOption (by decide +kernel))
  have untouched := session.channels_attempt surroundings (Command.agreed_of_starts starts) journal (some "f")
  have inTheWay : ((session.ended .lines (session.attempt surroundings .lines journal
      (session.work .lines none (some "f")))).files.makeDirectories (Path.parse "r")).2.map Fault.message =
        some "[Errno 17] File exists: 'r'" := by decide +kernel
  obtain ⟨fault, refused, message⟩ := Option.map_eq_some_iff.mp inTheWay
  have timed : Duration.between surroundings.start surroundings.stop = .ok 250 := eq_ok_of_toOption (by decide +kernel)
  have fails : session.ReportFails surroundings .lines (session.ended .lines (session.attempt surroundings .lines
      journal (session.work .lines none (some "f")))).files fault := .unmade rfl (by decide) timed refused
  have crashed := (released_unless_unreported session surroundings .lines journal (session.opened .lines journal)
    (some "logs/lines_fresh.log") (session.work .lines none (some "f")) created).2 fault fails
  have kept := crashed.2.2 untouched
  have course : finish = _ := Command.invoke_of_starts starts
  rw [course]
  exact ⟨fault, message, crashed.1, kept.1, kept.2.trans (by decide +kernel)⟩

end Session

end Linewise
