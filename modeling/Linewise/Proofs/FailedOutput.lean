import Linewise.Proofs.CommandOutcome

/-! What a command line prints when it fails. Values are printed once all are there, and the report is written after
that. So a failure before or in the work leaves nothing printed, and a report that cannot be written is the one failure
that comes too late. -/
namespace Linewise

open Journal (Told)

/-- An ending other than success and the help that was asked for. -/
inductive Ending.IsFailure : Ending → Prop
  | exit {code : Nat} (other : code ≠ 0) : IsFailure (.exit code)
  | misuse (misuse : Misuse) : IsFailure (.misuse misuse)
  | crash (fault : Fault) : IsFailure (.crash fault)

/-- Work that ends in a failure has printed nothing. -/
theorem Attempt.Shows.out_of_failure {attempt : Attempt} {result : Except Fault (List Value)}
    (shows : attempt.Shows result) (failed : ∀ values, result ≠ .ok values) : attempt.out = "" := by
  cases result with
  | ok values => exact absurd rfl (failed values)
  | error fault =>
    simp only [Attempt.Shows] at shows
    split at shows
    · exact shows.2.1
    · exact shows.2.1

/-- A report is not written for want of its directory, or of a place for it there. -/
theorem Report.write_error_iff (report : Report) {files : FileTree} {directory base : String} {fault : Fault} :
    (report.write files directory base).2 = .error fault ↔
      (files.makeDirectories (Path.parse directory)).2 = some fault ∨
      (files.makeDirectories (Path.parse directory)).2 = none ∧
        (files.makeDirectories (Path.parse directory)).1.writable
          ((Path.parse directory).join (base ++ ".json")).render = .error fault := by
  unfold write
  cases files.makeDirectories (Path.parse directory) with
  | mk after refused =>
    cases refused with
    | some cause => simp
    | none =>
      cases written : after.writable ((Path.parse directory).join (base ++ ".json")).render <;> simp [written]

namespace Session

/-- The report that there is to be cannot be written: the clock does not tell how long the run took, the directory
cannot be made, or something is in the way of the file. -/
inductive ReportFails (session : Session) (surroundings : Surroundings) (command : Command) (files : FileTree) :
    Fault → Prop
  | untimed {directory : String} {fault : Fault} (set : session.settings.reportDirectory = some directory)
      (filled : directory ≠ "") (refused : Duration.between surroundings.start surroundings.stop = .error fault) :
      ReportFails session surroundings command files fault
  | unmade {directory : String} {duration : Nat} {fault : Fault}
      (set : session.settings.reportDirectory = some directory) (filled : directory ≠ "")
      (timed : Duration.between surroundings.start surroundings.stop = .ok duration)
      (refused : (files.makeDirectories (Path.parse directory)).2 = some fault) :
      ReportFails session surroundings command files fault
  | unwritable {directory : String} {duration : Nat} {fault : Fault}
      (set : session.settings.reportDirectory = some directory) (filled : directory ≠ "")
      (timed : Duration.between surroundings.start surroundings.stop = .ok duration)
      (made : (files.makeDirectories (Path.parse directory)).2 = none)
      (refused : (files.makeDirectories (Path.parse directory)).1.writable (session.reportPath command directory) =
        .error fault) :
      ReportFails session surroundings command files fault

section

variable {session : Session} {surroundings : Surroundings} {command : Command} {opened journal : Journal}
  {fault : Fault}

theorem reportFails_iff {files : FileTree} {directory : String} {duration : Nat}
    (set : session.settings.reportDirectory = some directory) (filled : directory ≠ "")
    (timed : Duration.between surroundings.start surroundings.stop = .ok duration) :
    session.ReportFails surroundings command files fault ↔
      (files.makeDirectories (Path.parse directory)).2 = some fault ∨
      (files.makeDirectories (Path.parse directory)).2 = none ∧
        (files.makeDirectories (Path.parse directory)).1.writable (session.reportPath command directory) =
          .error fault := by
  constructor
  · intro fails
    cases fails with
    | untimed _ _ refused =>
      rw [timed] at refused
      cases refused
    | unmade set' _ _ refused =>
      cases set.symm.trans set'
      exact .inl refused
    | unwritable set' _ _ made refused =>
      cases set.symm.trans set'
      exact .inr ⟨made, refused⟩
  · rintro (refused | ⟨made, refused⟩)
    · exact .unmade set filled timed refused
    · exact .unwritable set filled timed made refused

/-- A run cannot be concluded just if its report cannot be written into the files as they are on opening the log: what
has been told since is in that log, and not in the way. -/
theorem conclude_fault_iff (logFile : Option String) (report : Report)
    (told : Told (session.channel command) opened journal) :
    (session.conclude surroundings command logFile report journal).2 = some fault ↔
      session.ReportFails surroundings command opened.files fault := by
  have unneeded (unset : ∀ directory, session.settings.reportDirectory = some directory → directory = "") :
      ¬ session.ReportFails surroundings command opened.files fault := by
    intro fails
    cases fails with
    | untimed set filled | unmade set filled | unwritable set filled => exact filled (unset _ set)
  unfold conclude
  split
  next unset =>
    refine iff_of_false (by simp) (unneeded ?_)
    intro directory set
    simp [unset] at set
  next blank =>
    refine iff_of_false (by simp) (unneeded ?_)
    intro directory set
    exact (Option.some.inj (blank.symm.trans set)).symm
  next directory filled set =>
    split
    next cause untimed =>
      constructor
      · rintro ⟨⟩
        exact .untimed set filled untimed
      · intro fails
        cases fails with
        | untimed _ _ refused => exact congrArg some (Except.error.inj (untimed.symm.trans refused))
        | unmade _ _ timed | unwritable _ _ timed => cases untimed.symm.trans timed
    next duration timed =>
      obtain ⟨made, alike⟩ := told.files.makeDirectories (Path.parse directory)
      have there := alike.writable (session.reportPath command directory)
      rw [reportFails_iff set filled timed, ← made, ← there]
      simp only
      generalize report.finalize surroundings.now (some (duration : Int)) _ = last
      refine Iff.trans ?_ (Report.write_error_iff last)
      split
      next files cause refused => simp [refused]
      next files path written => simp [written]

section

variable {transform : Option Transform} (agreed : command = .parseArgument → transform = some (.integer .i32 false))
  (argument : Option String)

include agreed

/-- With its log open, a run prints what its work prints. It ends as the work did, unless its report fails. -/
theorem run_course (surroundings : Surroundings) {logFile : Option String}
    (created : journal.create command.name session.settings.logDirectory session.runId session.settings.logLevel =
      (session.opened command journal, .ok logFile)) :
    ∃ stop : Option Fault,
      (∀ fault, stop = some fault ↔
        session.ReportFails surroundings command (session.opened command journal).files fault) ∧
      let attempt := session.attempt surroundings command journal (session.work command transform argument)
      let finish := session.run surroundings command journal (session.work command transform argument)
      finish.out = attempt.out ∧ finish.ending = (stop.map Ending.crash).getD attempt.ending := by
  obtain ⟨-, told⟩ := session.attempt_shows surroundings agreed journal argument
  rw [run_of_created created]
  generalize session.attempt surroundings command journal _ = attempt at told ⊢
  have told := told.trans (session.told_ended command attempt)
  refine ⟨_, fun fault => conclude_fault_iff logFile attempt.lastReport told, ?_⟩
  simp only
  split
  next after fault stopped => simp [stopped]
  next after unstopped => simp [unstopped]

/-- A run that fails has printed nothing, unless it did its work and then could not write its report. -/
theorem run_out_of_failure
    (failed : (session.run surroundings command journal (session.work command transform argument)).ending.IsFailure) :
    (session.run surroundings command journal (session.work command transform argument)).out = "" ∨
      ∃ fault values, session.ReportFails surroundings command (session.opened command journal).files fault ∧
        session.result command transform argument
          (session.filesOnOpening command transform journal (argument.getD "")) = .ok values ∧
        (session.run surroundings command journal (session.work command transform argument)).ending = .crash fault ∧
        (session.run surroundings command journal (session.work command transform argument)).out =
          String.join (values.map (echo ·.render)) := by
  cases created : journal.create command.name session.settings.logDirectory session.runId
      session.settings.logLevel with
  | mk opened log =>
    cases log with
    | error fault =>
      left
      unfold run
      simp only [created]
    | ok logFile =>
      obtain rfl : session.opened command journal = opened := congrArg Prod.fst created
      obtain ⟨shows, -⟩ := session.attempt_shows surroundings agreed journal argument
      obtain ⟨stop, stops, out, ending⟩ := run_course agreed argument surroundings created
      rw [ending] at failed
      rw [out, ending]
      cases result : session.result command transform argument
          (session.filesOnOpening command transform journal (argument.getD "")) with
      | error cause => exact .inl ((result ▸ shows).out_of_failure (by simp))
      | ok values =>
        rw [result] at shows
        obtain ⟨finished, printed, -⟩ := shows
        cases stop with
        | some fault => exact .inr ⟨fault, values, (stops fault).mp rfl, rfl, rfl, printed⟩
        | none =>
          simp only [Option.map_none, Option.getD_none, Attempt.ending, finished] at failed
          cases failed with
          | exit other => exact absurd rfl other

/-- A run whose report cannot be written crashes, and has printed its values by then. -/
theorem run_of_reportFails {level : Int} (known : Level.find session.settings.logLevel = .ok level)
    (logs : session.CanLog command journal)
    (fails : session.ReportFails surroundings command (session.opened command journal).files fault) :
    (session.run surroundings command journal (session.work command transform argument)).ending = .crash fault ∧
      ∀ values, session.result command transform argument
          (session.filesOnOpening command transform journal (argument.getD "")) = .ok values →
        (session.run surroundings command journal (session.work command transform argument)).out =
          String.join (values.map (echo ·.render)) := by
  obtain ⟨logFile, created⟩ := created_of_canLog logs known
  obtain ⟨shows, -⟩ := session.attempt_shows surroundings agreed journal argument
  obtain ⟨stop, stops, out, ending⟩ := run_course agreed argument surroundings created
  rw [(stops fault).mpr fails] at ending
  refine ⟨ending, ?_⟩
  intro values computed
  rw [computed] at shows
  exact out.trans shows.2.1

end

end

end Session

namespace Command

/-- A command's own words are turned down with nothing printed and nothing written, or are in order. -/
theorem stopped_or_typed (command : Command) (session : Session) (surroundings : Surroundings) (journal : Journal)
    (rest : List String) :
    (∃ ending err, command.runWords session surroundings journal rest = ⟨ending, "", err, journal⟩) ∨
      ∃ own transform, Words.parse command.rules rest = .ok own ∧ own.help = false ∧ own.positional.length ≤ 1 ∧
        command.transform own = .ok transform := by
  cases parsed : Words.parse command.rules rest with
  | error misuse =>
    left
    simp only [runWords, parsed]
    exact ⟨_, _, rfl⟩
  | ok own =>
    by_cases helped : own.help = true
    · left
      simp only [runWords, parsed, helped]
      exact ⟨_, _, rfl⟩
    by_cases many : 1 < own.positional.length
    · left
      simp only [runWords, parsed, helped, many]
      exact ⟨_, _, rfl⟩
    cases typed : command.transform own with
    | ok transform => exact .inr ⟨own, transform, rfl, by simpa using helped, Nat.not_lt.mp many, typed⟩
    | error fault =>
      left
      cases command with
      | lines | parseArgument => cases typed
      | numbers =>
        have unfound := eq_error_of_map_error typed
        simp only [runWords, parsed, helped, many, unfound]
        exact ⟨_, _, rfl⟩

/-- A command line stops short of its command with nothing printed and nothing written, or gets there. -/
theorem stopped_or_starts (surroundings : Surroundings) (journal : Journal) (arguments : List String) :
    (∃ ending err, invoke surroundings journal arguments = ⟨ending, "", err, journal⟩) ∨
      ∃ command session transform argument,
        Starts surroundings journal arguments command session transform argument := by
  unfold invoke
  split
  · exact .inl ⟨_, _, rfl⟩
  split
  · exact .inl ⟨_, _, rfl⟩
  next words parsed =>
    split
    · exact .inl ⟨_, _, rfl⟩
    next unhelped =>
      split
      · exact .inl ⟨_, _, rfl⟩
      next command rest found =>
        simp only
        split
        · left
          split <;> exact ⟨_, _, rfl⟩
        next loaded settled =>
          rcases stopped_or_typed command ⟨runIdOf surroundings words, loaded.settings, loaded.sources,
            words.value? "--config"⟩ surroundings journal rest with
            stopped | ⟨own, transform, parsedOwn, unhelpedOwn, single, typed⟩
          · exact .inl stopped
          · have unhelped : words.help = false := by simpa using unhelped
            exact .inr ⟨_, _, _, _, .mk parsed unhelped found settled parsedOwn unhelpedOwn single typed⟩

end Command

end Linewise
