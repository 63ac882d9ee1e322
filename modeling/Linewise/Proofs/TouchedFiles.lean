import Linewise.Proofs.FailedOutput

/-! What a command line does to the files. A log is only added to, a report is put in its own place, and directories
are made on the way to the two; the rest stays as it was. Without a log and a report, and where the command is not
reached, nothing changes at all. -/
namespace Linewise

open FileTree (Appended Extends OnTheWay place)
open Journal (Told)

namespace FileTree

/-- Where a run may write: the places at which it may make directories, its log and its report. The last two are never
one. -/
structure Scope where
  way : Location → Prop
  log : Location → Prop
  report : Location → Prop
  apart : ∀ location, log location → ¬ report location

/-- What may become of a place. What a log held stays in front of what it holds later. -/
inductive Change (scope : Scope) (location : Location) : Option Entry → Option Entry → Prop
  | kept (held : Option Entry) : Change scope location held held
  | made (on : scope.way location) : Change scope location none (some .directory)
  | begun (is : scope.log location) (bytes : List UInt8) : Change scope location none (some (.file bytes))
  | grown (is : scope.log location) (old new : List UInt8) :
      Change scope location (some (.file old)) (some (.file (old ++ new)))
  | written (is : scope.report location) {held : Option Entry} (plain : held ≠ some .directory) (bytes : List UInt8) :
      Change scope location held (some (.file bytes))

/-- A later tree with no other changes than these. -/
structure Confined (scope : Scope) (tree other : FileTree) : Prop where
  working : other.working = tree.working
  change : ∀ location, Change scope location (tree.find? location) (other.find? location)

section

variable {scope : Scope} {tree other third : FileTree} {location : Location}

theorem Change.trans {before between after : Option Entry} (first : Change scope location before between)
    (second : Change scope location between after) : Change scope location before after := by
  cases first with
  | kept => exact second
  | made on =>
    cases second with
    | kept => exact .made on
    | written is plain => exact absurd rfl plain
  | begun is bytes =>
    cases second with
    | kept => exact .begun is bytes
    | grown _ _ new => exact .begun is (bytes ++ new)
    | written is' => exact absurd is' (scope.apart location is)
  | grown is old new =>
    cases second with
    | kept => exact .grown is old new
    | grown _ _ more =>
      rw [List.append_assoc]
      exact .grown is old (new ++ more)
    | written is' => exact absurd is' (scope.apart location is)
  | written is plain bytes =>
    cases second with
    | kept => exact .written is plain bytes
    | grown is' => exact absurd is (scope.apart location is')
    | written _ _ later => exact .written is plain later

theorem Confined.refl (scope : Scope) (tree : FileTree) : Confined scope tree tree := ⟨rfl, fun _ => .kept _⟩

theorem Confined.trans (first : Confined scope tree other) (second : Confined scope other third) :
    Confined scope tree third :=
  ⟨second.working.trans first.working, fun location => (first.change location).trans (second.change location)⟩

theorem confined_of_extends {way : Location → Prop} (made : Extends way tree other)
    (inside : ∀ location, way location → scope.way location) : Confined scope tree other := by
  refine ⟨made.working, ?_⟩
  intro location
  rcases made.find location with same | ⟨on, absent, present⟩
  · rw [same]
    exact .kept _
  · rw [absent, present]
    exact .made (inside location on)

/-- Only one place matters where an entry is put. -/
theorem confined_put {entry : Entry} (inside : location ≠ [])
    (change : Change scope location (tree.find? location) (some entry)) :
    Confined scope tree (tree.put location entry) := by
  refine ⟨rfl, ?_⟩
  intro other
  by_cases here : other = location
  · subst here
    rw [find?_put_self tree _ _ inside]
    exact change
  · rw [find?_put_other tree _ _ _ here]
    exact .kept _

theorem confined_touch (is : scope.log location) : Confined scope tree (tree.touch location) := by
  unfold touch
  split
  · exact .refl scope tree
  · rename_i absent
    have absent : tree.find? location = none := by simpa using absent
    refine confined_put (ne_nil_of_find? absent (by simp)) ?_
    rw [absent]
    exact .begun is []

theorem confined_append (is : scope.log location) (bytes : List UInt8) :
    Confined scope tree (tree.append location bytes) := by
  unfold append
  split
  · rename_i old found
    refine confined_put (ne_nil_of_find? found (by simp)) ?_
    rw [found]
    exact .grown is old bytes
  · exact .refl scope tree

theorem confined_of_appended {logs : List Location} (appended : Appended logs tree other)
    (inside : ∀ location ∈ logs, scope.log location) : Confined scope tree other := by
  induction appended with
  | refl => exact .refl scope tree
  | append earlier member bytes ih => exact ih.trans (confined_append (inside _ member) bytes)

theorem eq_of_appended (appended : Appended [] tree other) : other = tree := by
  cases appended with
  | refl => rfl
  | append earlier member => cases member

end

end FileTree

open FileTree (Scope Confined)

/-- The code in which an ending is told to the system. -/
def Ending.exitCode : Ending → Nat
  | .exit code => code
  | .help => 0
  | .misuse _ => 2
  | .crash _ => 1

theorem Attempt.Shows.exitCode_le_one {attempt : Attempt} {result : Except Fault (List Value)}
    (shows : attempt.Shows result) : attempt.ending.exitCode ≤ 1 := by
  cases result with
  | ok values => simp [Attempt.ending, shows.1, Ending.exitCode]
  | error fault =>
    simp only [Attempt.Shows] at shows
    split at shows <;> simp [Attempt.ending, shows.1, Ending.exitCode]

namespace Session

variable (session : Session)

/-- A place on the way to the directory of the log or of the report. -/
def IsOnWay (working location : Location) : Prop :=
  ∃ directory, (IsSet session.settings.logDirectory directory ∨ IsSet session.settings.reportDirectory directory) ∧
    OnTheWay working (Path.parse directory) location

/-- The place of the log, which is opened by its full path. -/
def IsLog (command : Command) (working location : Location) : Prop :=
  ∃ directory, IsSet session.settings.logDirectory directory ∧
    location = place working ((Journal.logPath directory command.name session.runId).absolute working).render

/-- The place of the report. -/
def IsReport (command : Command) (working location : Location) : Prop :=
  ∃ directory, IsSet session.settings.reportDirectory directory ∧
    location = place working (session.reportPath command directory)

variable {session} {command : Command} {working location : Location}

theorem endsIn_of_isLog (log : session.IsLog command working location) : EndsIn ".log".toList location := by
  obtain ⟨directory, -, is⟩ := log
  rw [is]
  apply FileTree.endsIn_place working (by decide) (by decide)
  apply Path.suffix_render
  exact Path.endsIn_absolute (by decide) working (Journal.endsIn_logPath directory command.name session.runId)

theorem endsIn_of_isReport (report : session.IsReport command working location) : EndsIn ".json".toList location := by
  obtain ⟨directory, -, is⟩ := report
  rw [is]
  exact FileTree.endsIn_place working (by decide) (by decide) (session.suffix_reportPath command directory)

variable (session) in
/-- Where a run may write. -/
def scope (command : Command) (working : Location) : Scope where
  way := session.IsOnWay working
  log := session.IsLog command working
  report := session.IsReport command working
  apart _ log report := not_endsIn_both (endsIn_of_isLog log) (endsIn_of_isReport report)

section

variable {journal opened : Journal} {directory : String} {logFile : Option String}

theorem confined_makeDirectories {files : FileTree}
    (set : IsSet session.settings.logDirectory directory ∨ IsSet session.settings.reportDirectory directory) :
    Confined (session.scope command files.working) files (files.makeDirectories (Path.parse directory)).1 :=
  FileTree.confined_of_extends (files.extends_makeDirectories (Path.parse directory))
    fun _ on => ⟨directory, set, on⟩

theorem isLog_of_writable {files : FileTree} (set : IsSet session.settings.logDirectory directory)
    (written : files.writable
      ((Journal.logPath directory command.name session.runId).absolute files.working).render = .ok location)
    (same : files.working = working) : session.IsLog command working location :=
  ⟨directory, set, same ▸ (FileTree.location_of_writable written).1⟩

theorem confined_write (report : Report) {files : FileTree} (set : IsSet session.settings.reportDirectory directory) :
    Confined (session.scope command files.working) files
      (report.write files directory ("report_" ++ command.name ++ "_" ++ session.runId)).1 := by
  have way : Confined (session.scope command files.working) files _ := confined_makeDirectories (.inr set)
  unfold Report.write
  split
  · rename_i after fault made
    rwa [made] at way
  · rename_i after made
    rw [made] at way
    simp only
    split
    · exact way
    · rename_i location written
      obtain ⟨is, plain⟩ := FileTree.location_of_writable written
      have here : session.IsReport command files.working location := ⟨directory, set, way.working ▸ is⟩
      exact way.trans (FileTree.confined_put (FileTree.ne_nil_of_find? rfl plain) (.written here plain _))

/-- Opening the log makes directories on the way to it and the log itself, if that. -/
theorem confined_opened (session : Session) (command : Command) (journal : Journal) :
    Confined (session.scope command journal.files.working) journal.files (session.opened command journal).files := by
  unfold Session.opened
  cases created : journal.create command.name session.settings.logDirectory session.runId
      session.settings.logLevel with
  | mk after log =>
    cases log with
    | error fault =>
      rcases Journal.files_of_create_error created with same | ⟨directory, set, made⟩
      · rw [same]
        exact .refl _ _
      · rw [made]
        exact confined_makeDirectories (.inl set)
    | ok logFile =>
      cases Journal.created_of_create created with
      | silent => exact .refl _ _
      | @logged level directory files location known set made written =>
        have way : Confined (session.scope command journal.files.working) journal.files _ :=
          confined_makeDirectories (.inl set)
        rw [made] at way
        exact way.trans (FileTree.confined_touch (isLog_of_writable set written way.working))

/-- The log of a run that has one is in its place. -/
theorem isLog_of_created
    (created : journal.create command.name session.settings.logDirectory session.runId session.settings.logLevel =
      (opened, .ok logFile)) (member : location ∈ opened.logs (session.channel command)) :
    session.IsLog command journal.files.working location := by
  cases Journal.created_of_create created with
  | silent => simp [Session.channel, Journal.logs_put, Sink.log?] at member
  | @logged level directory files place known set made written =>
    obtain rfl : location = place := by simpa [Session.channel, Journal.logs_put, Sink.log?] using member
    have working := (journal.files.extends_makeDirectories (Path.parse directory)).working
    rw [made] at working
    exact isLog_of_writable set written working

/-- A report is written with no other changes than its own, and telling of it adds to the log. -/
theorem confined_conclude (surroundings : Surroundings) (logFile : Option String) (report : Report)
    (same : journal.files.working = working)
    (logs : ∀ location ∈ journal.logs (session.channel command), session.IsLog command working location) :
    Confined (session.scope command working) journal.files
      (session.conclude surroundings command logFile report journal).1.files := by
  subst same
  unfold conclude
  split
  · exact .refl _ _
  · exact .refl _ _
  rename_i directory filled set
  split
  · exact .refl _ _
  simp only
  generalize report.finalize surroundings.now _ _ = last
  have written : Confined (session.scope command journal.files.working) journal.files _ :=
    confined_write last ⟨set, filled⟩
  split
  · rename_i files fault refused
    rwa [refused] at written
  · rename_i files path wrote
    rw [wrote] at written
    have told := session.told_tell command { journal with files } Level.info "report" ("Report written: " ++ path)
    exact written.trans (FileTree.confined_of_appended told.appended logs)

/-- Without a directory for it there is no log, and opening it does nothing to the files. -/
theorem opened_of_unset (session : Session) (command : Command) (journal : Journal)
    (unset : Unset session.settings.logDirectory) :
    (session.opened command journal).files = journal.files ∧
      ∀ logFile, (journal.create command.name session.settings.logDirectory session.runId
          session.settings.logLevel).2 = .ok logFile →
        (session.opened command journal).logs (session.channel command) = [] := by
  unfold Session.opened
  cases created : journal.create command.name session.settings.logDirectory session.runId
      session.settings.logLevel with
  | mk after log =>
    cases log with
    | error fault =>
      rcases Journal.files_of_create_error created with same | ⟨directory, set, -⟩
      · exact ⟨same, by simp⟩
      · exact absurd set (unset directory)
    | ok logFile =>
      cases Journal.created_of_create created with
      | silent => exact ⟨rfl, fun _ _ => by simp [Session.channel, Journal.logs_put, Sink.log?]⟩
      | logged known set => exact absurd set (unset _)

theorem conclude_of_unset (surroundings : Surroundings) (logFile : Option String) (report : Report)
    (unset : Unset session.settings.reportDirectory) :
    (session.conclude surroundings command logFile report journal).1 = journal := by
  unfold conclude
  split
  · rfl
  · rfl
  · rename_i directory filled set
    exact absurd ⟨set, filled⟩ (unset directory)

end

/-- What a run comes to: its log is refused, or things are told through it until the report is written. -/
inductive Stages (session : Session) (surroundings : Surroundings) (command : Command) (journal : Journal)
    (finish : Finish) : Prop
  | unlogged (code : finish.ending.exitCode ≤ 1) (same : finish.journal = session.opened command journal)
  | logged {logFile : Option String} {report : Report} {ended : Journal} (code : finish.ending.exitCode ≤ 1)
      (created : journal.create command.name session.settings.logDirectory session.runId session.settings.logLevel =
        (session.opened command journal, .ok logFile))
      (told : Told (session.channel command) (session.opened command journal) ended)
      (files : finish.journal.files = (session.conclude surroundings command logFile report ended).1.files)

theorem stages_run (session : Session) {transform : Option Transform}
    (agreed : command = .parseArgument → transform = some (.integer .i32 false)) (surroundings : Surroundings)
    (journal : Journal) (argument : Option String) :
    session.Stages surroundings command journal
      (session.run surroundings command journal (session.work command transform argument)) := by
  cases created : journal.create command.name session.settings.logDirectory session.runId
      session.settings.logLevel with
  | mk opened log =>
    have same : session.opened command journal = opened := congrArg Prod.fst created
    cases log with
    | error fault =>
      have refused : session.run surroundings command journal (session.work command transform argument) =
          ⟨.crash fault, "", "", opened⟩ := by
        unfold run
        simp only [created]
      rw [refused]
      exact .unlogged (Nat.le_refl 1) same.symm
    | ok logFile =>
      subst same
      obtain ⟨shows, told⟩ := session.attempt_shows surroundings agreed journal argument
      rw [run_of_created created]
      generalize session.attempt surroundings command journal _ = attempt at shows told ⊢
      have told := told.trans (session.told_ended command attempt)
      simp only
      split
      next after fault stopped => exact .logged (Nat.le_refl 1) created told (by rw [stopped])
      next after finished =>
        have files : (after.close (session.channel command)).files = (session.conclude surroundings command logFile
            attempt.lastReport (session.ended command attempt)).1.files := by
          rw [finished, Journal.files_close]
        exact .logged shows.exitCode_le_one created told files

section

variable {surroundings : Surroundings} {journal : Journal} {finish : Finish}
  (stages : session.Stages surroundings command journal finish)

include stages

theorem Stages.exitCode_le_one : finish.ending.exitCode ≤ 1 := by
  cases stages with
  | unlogged code | logged code => exact code

/-- A run writes nowhere but in its scope. -/
theorem Stages.confined : Confined (session.scope command journal.files.working) journal.files finish.journal.files := by
  have opening := session.confined_opened command journal
  cases stages with
  | unlogged _ same =>
    rw [same]
    exact opening
  | @logged logFile report ended _ created told files =>
    have logs (location : Location) :
        location ∈ (session.opened command journal).logs (session.channel command) →
          session.IsLog command journal.files.working location := isLog_of_created created
    have telling : Confined (session.scope command journal.files.working) _ ended.files :=
      FileTree.confined_of_appended told.appended logs
    have working := telling.working.trans opening.working
    rw [files]
    apply (opening.trans telling).trans
    apply confined_conclude surroundings logFile report working
    intro location member
    exact logs location (told.logs ▸ member)

/-- A run without a log and a report does nothing to the files. -/
theorem Stages.files_of_unset (log : Unset session.settings.logDirectory)
    (report : Unset session.settings.reportDirectory) : finish.journal.files = journal.files := by
  obtain ⟨untouched, unlogged⟩ := session.opened_of_unset command journal log
  cases stages with
  | unlogged _ same =>
    rw [same]
    exact untouched
  | @logged logFile _ ended _ created told files =>
    have appended := told.appended
    rw [unlogged logFile (by rw [created])] at appended
    rw [files, conclude_of_unset surroundings logFile _ report, FileTree.eq_of_appended appended, untouched]

end

end Session

namespace Command

/-- The files after a command line. They are as they were if the exit code is that of a misuse or of settings that are
refused, and if there is neither a directory for logs nor one for reports. Otherwise the command has run, and every
change is a directory on the way to one of the two, the run's log, which keeps what it held in front, or its report. -/
theorem files_touched_where_configured (surroundings : Surroundings) (journal : Journal) (arguments : List String) :
    let finish := invoke surroundings journal arguments
    (finish.ending.exitCode = 2 → finish.journal.files = journal.files) ∧
    ((∀ words loaded, Words.parse sharedRules arguments = .ok words →
        Settings.load journal.files surroundings.environment (words.value? "--config") (overrides words) = .ok loaded →
        Unset loaded.settings.logDirectory ∧ Unset loaded.settings.reportDirectory) →
      finish.journal.files = journal.files) ∧
    (finish.journal.files = journal.files ∨
      ∃ command session transform argument,
        Starts surroundings journal arguments command session transform argument ∧
        Confined (session.scope command journal.files.working) journal.files finish.journal.files) := by
  intro finish
  rcases stopped_or_starts surroundings journal arguments with
    ⟨ending, err, stopped⟩ | ⟨command, session, transform, argument, starts⟩
  · have same : finish.journal.files = journal.files := congrArg (·.journal.files) stopped
    exact ⟨fun _ => same, fun _ => same, .inl same⟩
  have stages := session.stages_run (agreed_of_starts starts) surroundings journal argument
  rw [← invoke_of_starts starts] at stages
  refine ⟨?_, ?_, .inr ⟨command, session, transform, argument, starts, stages.confined⟩⟩
  · intro code
    have small : finish.ending.exitCode ≤ 1 := stages.exitCode_le_one
    omega
  · intro unset
    cases starts with
    | mk parsed unhelped found settled =>
      obtain ⟨log, report⟩ := unset _ _ parsed settled
      exact stages.files_of_unset log report

end Command

end Linewise
