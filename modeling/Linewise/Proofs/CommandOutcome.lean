import Linewise.Proofs.CommandWork
import Linewise.Proofs.SettingsPriority

/-! How a command ends. Exit code, output and report are made in different places; for every command line that gets
as far as its command they agree with each other and with the command's result. -/
namespace Linewise

open FileTree (Alike)
open Journal (Told)

/-- A report that could be written into a tree is written into any that differs from it only in some files. -/
theorem Report.write_of_alike (report : Report) {logs : List Location} {tree files : FileTree}
    (alike : Alike logs tree files) {directory base : String} {location : Location}
    (made : (tree.makeDirectories (Path.parse directory)).2 = none)
    (written : (tree.makeDirectories (Path.parse directory)).1.writable
      ((Path.parse directory).join (base ++ ".json")).render = .ok location) :
    let path := ((Path.parse directory).join (base ++ ".json")).render
    let bytes := Text.Utf8.encode report.render.toList
    ∃ after, report.write files directory base = (after, .ok path) ∧
      after.resolve path = .ok (.entry location (.file bytes)) ∧ after.read path = .ok bytes := by
  intro path bytes
  obtain ⟨same, alike'⟩ := alike.makeDirectories (Path.parse directory)
  rw [made] at same
  have there := (alike'.writable path).trans written
  refine ⟨(files.makeDirectories (Path.parse directory)).1.put location (.file bytes), ?_, ?_, ?_⟩
  · unfold Report.write
    generalize files.makeDirectories (Path.parse directory) = result at same there ⊢
    obtain ⟨after, fault⟩ := result
    obtain rfl : fault = none := same
    have there' : after.writable ((Path.parse directory).join (base ++ ".json")).render = .ok location := there
    simp only [there']
    rfl
  · exact FileTree.resolve_put_of_writable bytes there
  · exact FileTree.read_put_of_writable bytes there

/-- The report an attempt leaves to be written. -/
def Attempt.lastReport (attempt : Attempt) : Report :=
  match attempt.result with
  | .ok _ => attempt.report
  | .error fault => attempt.report.crashWith fault

def Attempt.ending (attempt : Attempt) : Ending :=
  match attempt.result with
  | .ok code => .exit code
  | .error fault => .crash fault

theorem Attempt.result_of_exit {attempt : Attempt} {code : Nat} (exited : attempt.ending = .exit code) :
    attempt.result = .ok code := by
  unfold ending at exited
  cases result : attempt.result with
  | error fault =>
    rw [result] at exited
    cases exited
  | ok other =>
    rw [result] at exited
    cases exited
    rfl

namespace Session

variable (session : Session)

/-- The report file of a run. -/
def reportPath (command : Command) (directory : String) : String :=
  ((Path.parse directory).join ("report_" ++ command.name ++ "_" ++ session.runId ++ ".json")).render

/-- The journal once the run's log is open. -/
def opened (command : Command) (journal : Journal) : Journal :=
  (journal.create command.name session.settings.logDirectory session.runId session.settings.logLevel).1

/-- The journal once the start of the run has been told. -/
def begun (command : Command) (journal : Journal) : Journal :=
  session.tell command (session.opened command journal) Level.info "core"
    ("Command started config_sources=" ++ session.sourcesText)

/-- What the work of a run comes to, once its log is open. -/
def attempt (surroundings : Surroundings) (command : Command) (journal : Journal) (work : Report → Journal → Attempt) :
    Attempt :=
  work (Report.startWith surroundings.now session.runId command.name session.sources) (session.begun command journal)

/-- The journal once the end of the work has been told. -/
def ended (command : Command) (attempt : Attempt) : Journal :=
  match attempt.result with
  | .ok code =>
    session.tell command attempt.journal Level.info "core" ("Command finished exit_code=" ++ toString code)
  | .error fault =>
    session.tell command attempt.journal Level.error "core"
      ("Command crashed: " ++ fault.kind.name ++ ": " ++ fault.message)

/-- The log file can be opened, if there is to be one. -/
def CanLog (command : Command) (journal : Journal) : Prop :=
  ∀ directory, session.settings.logDirectory = some directory → directory ≠ "" →
    ∃ logFile, (journal.create command.name (some directory) session.runId session.settings.logLevel).2 = .ok logFile

/-- The report can be written, if there is to be one: the clock has told how long the run took, the directory is there
or can be made, and nothing is in the way of the file. -/
def CanReport (surroundings : Surroundings) (command : Command) (files : FileTree) : Prop :=
  ∀ directory, session.settings.reportDirectory = some directory → directory ≠ "" →
    (∃ duration, Duration.between surroundings.start surroundings.stop = .ok duration) ∧
    (files.makeDirectories (Path.parse directory)).2 = none ∧
    ∃ location, (files.makeDirectories (Path.parse directory)).1.writable (session.reportPath command directory) =
      .ok location

/-- The report, if there is to be one, has been written with this status, error and count. -/
def Filed (command : Command) (files : FileTree) (status : String) (error : Json) (count : Int) : Prop :=
  ∀ directory, session.settings.reportDirectory = some directory → directory ≠ "" →
    ∃ details context, files.read (session.reportPath command directory) = .ok (Text.Utf8.encode
      ((Json.object [("status", .text status), ("meta", details), ("values_count", .int count), ("error", error),
        ("context", context)]).render (.indented 2) 0).toList)

/-- An end that agrees with a result: the values are printed, or the one failure is, or a fault that is no failure
escapes; and the report says the same. -/
structure Accounts (command : Command) (finish : Finish) (result : Except Fault (List Value)) : Prop where
  printed : ∀ values, result = .ok values →
    finish.ending = .exit 0 ∧ finish.err = "" ∧ finish.out = String.join (values.map (echo ·.render)) ∧
      session.Filed command finish.journal.files "ok" .null values.length
  failed : ∀ fault failure, result = .error fault → Failure.ofFault? fault = some failure →
    finish.ending = .exit 1 ∧ finish.out = "" ∧ finish.err = echo failure.message ∧
      session.Filed command finish.journal.files "failed" failure.toJson 0
  crashed : ∀ fault, result = .error fault → Failure.ofFault? fault = none →
    finish.ending = .crash fault ∧ finish.out = "" ∧
      session.Filed command finish.journal.files "failed"
        (.object [("kind", .text "UNEXPECTED_ERROR"), ("message", .text fault.message),
          ("type", .text fault.kind.name)]) 0

theorem suffix_reportPath (command : Command) (directory : String) :
    ".json".toList <:+ (session.reportPath command directory).toList := by
  refine Path.suffix_render (Path.endsIn_join (by decide) (by decide) (Path.parse directory) ?_)
  simp only [String.toList_append]
  exact List.suffix_append _ _

/-- A report does not lie where a log does. -/
theorem reportPath_apart {command : Command} {directory : String} {logs : List Location} {tree files : FileTree}
    {location : Location} {held : Entry} (named : ∀ log ∈ logs, EndsIn ".log".toList log)
    (written : tree.writable (session.reportPath command directory) = .ok location)
    (found : files.resolve (session.reportPath command directory) = .ok (.entry location held)) :
    ∀ log ∈ logs, ∀ entry, files.resolve (session.reportPath command directory) ≠ .ok (.entry log entry) := by
  intro log member entry there
  have suffix := session.suffix_reportPath command directory
  rw [found] at there
  cases there
  exact not_endsIn_both (named _ member) (FileTree.endsIn_of_writable (by decide) (by decide) suffix written)

/-- A report that can be written is, and what is told of it afterwards leaves it as it is. -/
theorem conclude_files (surroundings : Surroundings) {command : Command} (logFile : Option String) (report : Report)
    {opened journal : Journal} (told : Told (session.channel command) opened journal)
    (named : ∀ location ∈ opened.logs (session.channel command), EndsIn ".log".toList location)
    (can : session.CanReport surroundings command opened.files) :
    ∃ after, session.conclude surroundings command logFile report journal = (after, none) ∧
      session.Filed command after.files report.status report.errorJson report.count := by
  unfold conclude
  split
  · rename_i unset
    refine ⟨journal, rfl, ?_⟩
    intro directory set
    simp [unset] at set
  · rename_i blank
    refine ⟨journal, rfl, ?_⟩
    intro directory set filled
    simp only [blank, Option.some.injEq] at set
    exact absurd set.symm filled
  · rename_i directory filled set
    obtain ⟨⟨duration, took⟩, made, location, written⟩ := can directory set filled
    simp only [took]
    generalize final : report.finalize surroundings.now (some (duration : Int)) _ = last
    obtain ⟨files, wrote, found, content⟩ := last.write_of_alike told.files made written
    rw [wrote]
    refine ⟨_, rfl, ?_⟩
    intro other otherSet _
    obtain rfl : directory = other := by simpa [set] using otherSet
    have later := session.told_tell command { journal with files } Level.info "report"
      ("Report written: " ++ session.reportPath command directory)
    have apart := session.reportPath_apart named written found
    have logs : { journal with files }.logs (session.channel command) = opened.logs (session.channel command) :=
      told.logs
    have kept := later.files.read (logs ▸ apart)
    subst final
    exact ⟨_, _, kept.trans content⟩

section

variable {session} {surroundings : Surroundings} {command : Command} {journal opened : Journal}
  {logFile : Option String} {work : Report → Journal → Attempt} {result : Except Fault (List Value)}

theorem told_begun (session : Session) (command : Command) (journal : Journal) :
    Told (session.channel command) (session.opened command journal) (session.begun command journal) :=
  session.told_tell command _ _ _ _

theorem told_ended (session : Session) (command : Command) (attempt : Attempt) :
    Told (session.channel command) attempt.journal (session.ended command attempt) := by
  unfold ended
  split <;> exact session.told_tell command _ _ _ _

/-- The course of a run whose log is open: its work, then its report. -/
theorem run_of_created
    (created : journal.create command.name session.settings.logDirectory session.runId session.settings.logLevel =
      (opened, .ok logFile)) :
    session.run surroundings command journal work =
      let attempt := session.attempt surroundings command journal work
      match session.conclude surroundings command logFile attempt.lastReport (session.ended command attempt) with
      | (journal, some fault) => ⟨.crash fault, attempt.out, attempt.err, journal⟩
      | (journal, none) => ⟨attempt.ending, attempt.out, attempt.err, journal.close (session.channel command)⟩ := by
  have same : session.opened command journal = opened := congrArg Prod.fst created
  subst same
  unfold run
  simp only [created]
  -- The work appears in the run as it is written there; it is named before its result is looked at.
  generalize fixed : session.attempt surroundings command journal work = attempt
  simp only [Session.attempt, begun] at fixed
  simp only [fixed, Attempt.lastReport, Attempt.ending, ended]
  cases attempt.result <;> rfl

/-- An exit code is that of the work, and what the work printed has been printed. -/
theorem attempt_of_exit {code : Nat} (exited : (session.run surroundings command journal work).ending = .exit code) :
    (session.attempt surroundings command journal work).result = .ok code ∧
      (session.run surroundings command journal work).out = (session.attempt surroundings command journal work).out := by
  cases created : journal.create command.name session.settings.logDirectory session.runId
      session.settings.logLevel with
  | mk opened log =>
    cases log with
    | error fault =>
      unfold run at exited
      simp only [created] at exited
      cases exited
    | ok logFile =>
      rw [run_of_created created] at exited ⊢
      generalize session.attempt surroundings command journal work = attempt at exited ⊢
      simp only at exited ⊢
      split at exited
      next after fault concluded => cases exited
      next after concluded =>
        exact ⟨Attempt.result_of_exit exited, rfl⟩

/-- The files as a command finds them when it opens the one it reads: its log already tells of that. -/
def filesOnOpening (session : Session) (command : Command) (transform : Option Transform) (journal : Journal)
    (path : String) : FileTree :=
  let pipeline := session.pipeline command transform
  (pipeline.tell (session.begun command journal) [pipeline.opening path]).files

theorem opener_pipeline (session : Session) (command : Command) (transform : Option Transform) :
    (session.pipeline command transform).opener = LineReader.openFile := rfl

/-- The work of a command shows its result over the files as they are on opening, also if it reads its own log. -/
theorem attempt_shows (session : Session) (surroundings : Surroundings) {transform : Option Transform}
    (agreed : command = .parseArgument → transform = some (.integer .i32 false)) (journal : Journal)
    (argument : Option String) :
    let attempt := session.attempt surroundings command journal (session.work command transform argument)
    attempt.Shows (session.result command transform argument
        (session.filesOnOpening command transform journal (argument.getD ""))) ∧
      Told (session.channel command) (session.opened command journal) attempt.journal := by
  have clear := Report.tells_startWith surroundings.now session.runId command.name session.sources
  have begun := session.told_begun command journal
  -- Only the files at a given path are looked at, so without one any files will do.
  cases command with
  | parseArgument =>
    rw [agreed rfl]
    have shown := session.parseValue_shows argument clear begun
    simp only [result] at shown ⊢
    exact shown
  | lines | numbers =>
    cases argument with
    | none =>
      have shown := session.readFile_shows_missing (by decide) transform clear begun
      simp only [result] at shown ⊢
      exact shown
    | some path => exact readFile_shows begun path transform clear

section

variable
  (created : journal.create command.name session.settings.logDirectory session.runId session.settings.logLevel =
    (opened, .ok logFile))
  (can : session.CanReport surroundings command opened.files)

include created can

/-- With its log open and its report written, a run ends as its work did. -/
theorem run_finish
    (told : Told (session.channel command) opened (session.attempt surroundings command journal work).journal) :
    let attempt := session.attempt surroundings command journal work
    ∃ after, session.run surroundings command journal work = ⟨attempt.ending, attempt.out, attempt.err, after⟩ ∧
      session.Filed command after.files attempt.lastReport.status attempt.lastReport.errorJson
        attempt.lastReport.count := by
  intro attempt
  have named : ∀ location ∈ opened.logs (session.channel command), EndsIn ".log".toList location :=
    fun location member => Journal.endsIn_of_create created member
  obtain ⟨after, concluded, filed⟩ := session.conclude_files surroundings logFile attempt.lastReport
    (told.trans (session.told_ended command attempt)) named can
  rw [run_of_created created]
  simp only [attempt, concluded]
  exact ⟨_, rfl, by rwa [Journal.files_close]⟩

theorem run_accounts
    (shows : ∀ report told, report.Tells none none 0 → Told (session.channel command) opened told →
      (work report told).Shows result ∧ Told (session.channel command) opened (work report told).journal) :
    session.Accounts command (session.run surroundings command journal work) result := by
  have same : session.opened command journal = opened := congrArg Prod.fst created
  obtain ⟨shown, told⟩ : (session.attempt surroundings command journal work).Shows result ∧ _ :=
    shows _ (session.begun command journal)
      (Report.tells_startWith surroundings.now session.runId command.name session.sources)
      (same ▸ session.told_begun command journal)
  obtain ⟨after, finish, filed⟩ := run_finish created can told
  generalize session.attempt surroundings command journal work = attempt at shown finish filed
  rw [finish]
  refine ⟨?_, ?_, ?_⟩
  · rintro values rfl
    obtain ⟨finished, out, err, tells⟩ := shown
    refine ⟨by simp [Attempt.ending, finished], err, out, ?_⟩
    simpa [Attempt.lastReport, finished, Report.status, Report.errorJson, tells.failure, tells.unexpected,
      tells.count] using filed
  · rintro fault failure rfl accounted
    simp only [Attempt.Shows, accounted] at shown
    obtain ⟨finished, out, err, tells⟩ := shown
    refine ⟨by simp [Attempt.ending, finished], out, err, ?_⟩
    simpa [Attempt.lastReport, finished, Report.status, Report.errorJson, tells.failure, tells.count] using filed
  · rintro fault rfl unaccounted
    simp only [Attempt.Shows, unaccounted] at shown
    obtain ⟨finished, out, tells⟩ := shown
    refine ⟨by simp [Attempt.ending, finished], out, ?_⟩
    simpa [Attempt.lastReport, finished, Report.crashWith, Report.status, Report.errorJson, tells.failure] using filed

end

/-- A log file that is not asked for does not stand in the way. -/
theorem created_of_canLog (can : session.CanLog command journal) {level : Int}
    (known : Level.find session.settings.logLevel = .ok level) :
    ∃ logFile, journal.create command.name session.settings.logDirectory session.runId session.settings.logLevel =
      (session.opened command journal, .ok logFile) := by
  unfold opened
  cases set : session.settings.logDirectory with
  | none =>
    unfold Journal.create
    rw [known]
    exact ⟨none, rfl⟩
  | some directory =>
    by_cases blank : directory = ""
    · unfold Journal.create
      rw [known, blank]
      exact ⟨none, rfl⟩
    · obtain ⟨logFile, created⟩ := can directory set blank
      exact ⟨logFile, by rw [← created]⟩

end

end Session

theorem Settings.level_of_load {files : FileTree} {environment : Environment} {configPath : Option String}
    {overrides : Overrides} {loaded : Loaded} (ok : load files environment configPath overrides = .ok loaded) :
    ∃ level, Level.find loaded.settings.logLevel = .ok level := by
  obtain ⟨config, -, settled⟩ := exists_of_bind_ok ok
  obtain ⟨-, accepted, -⟩ := of_settle settled
  obtain ⟨level, named⟩ := Option.isSome_iff_exists.mp accepted
  rw [Level.find, named]
  exact ⟨level, rfl⟩

namespace Command

/-- What a command makes of a line or of its argument. -/
def transform (command : Command) (words : Words) : Except Fault (Option Transform) :=
  match command with
  | lines => .ok none
  | numbers => some <$> Transform.find ((words.value? "--type").getD "u64")
  | parseArgument => .ok (some (.integer .i32 false))

/-- A command line that gets past its options and settings, with the command it names, the session it runs in, the
transform and the argument. -/
inductive Starts (surroundings : Surroundings) (journal : Journal) (arguments : List String) :
    Command → Session → Option Transform → Option String → Prop
  | mk {words own : Words} {command : Command} {rest : List String} {loaded : Settings.Loaded}
      {transform : Option Transform} (parsed : Words.parse sharedRules arguments = .ok words)
      (unhelped : words.help = false) (found : find words = .ok (command, rest))
      (settled : Settings.load journal.files surroundings.environment (words.value? "--config") (overrides words) =
        .ok loaded)
      (parsedOwn : Words.parse command.rules rest = .ok own) (unhelpedOwn : own.help = false)
      (single : own.positional.length ≤ 1) (typed : command.transform own = .ok transform) :
      Starts surroundings journal arguments command
        ⟨runIdOf surroundings words, loaded.settings, loaded.sources, words.value? "--config"⟩ transform
        own.positional.head?

variable {surroundings : Surroundings} {journal : Journal} {arguments : List String} {command : Command}
  {session : Session} {transform : Option Transform} {argument : Option String}

/-- A command with its own words in order does its work. -/
theorem runWords_of_parse {rest : List String} {own : Words} (session : Session)
    (parsed : Words.parse command.rules rest = .ok own) (unhelped : own.help = false)
    (single : own.positional.length ≤ 1) (typed : command.transform own = .ok transform) :
    command.runWords session surroundings journal rest =
      session.run surroundings command journal (session.work command transform own.positional.head?) := by
  have few : ¬ 1 < own.positional.length := Nat.not_lt.mpr single
  simp only [runWords, parsed, unhelped, few, Bool.false_eq_true, if_false]
  cases command with
  | lines => cases typed; rfl
  | parseArgument => cases typed; rfl
  | numbers =>
    simp only [Command.transform] at typed
    cases found : Transform.find ((own.value? "--type").getD "u64") with
    | error fault => rw [found] at typed; cases typed
    | ok named => rw [found] at typed; cases typed; rfl

theorem invoke_of_starts (starts : Starts surroundings journal arguments command session transform argument) :
    invoke surroundings journal arguments =
      session.run surroundings command journal (session.work command transform argument) := by
  cases starts with
  | mk parsed unhelped found settled parsedOwn unhelpedOwn single typed =>
    have given : arguments ≠ [] := by
      rintro rfl
      cases parsed
      cases found
    simp only [invoke, given, parsed, unhelped, found, settled, if_false, Bool.false_eq_true]
    exact runWords_of_parse _ parsedOwn unhelpedOwn single typed

theorem level_of_starts (starts : Starts surroundings journal arguments command session transform argument) :
    ∃ level, Level.find session.settings.logLevel = .ok level := by
  cases starts with
  | mk parsed unhelped found settled => exact Settings.level_of_load settled

theorem agreed_of_starts (starts : Starts surroundings journal arguments command session transform argument)
    (parses : command = .parseArgument) : transform = some (.integer .i32 false) := by
  cases starts with
  | mk parsed unhelped found settled parsedOwn unhelpedOwn single typed =>
    subst parses
    exact (Except.ok.inj typed).symm

/-- A command whose log and report can be written succeeds where its result is values, and prints them. -/
theorem exit_of_result {values : List Value}
    (starts : Starts surroundings journal arguments command session transform argument)
    (logs : session.CanLog command journal)
    (reports : session.CanReport surroundings command (session.opened command journal).files)
    (computed : session.result command transform argument
      (session.filesOnOpening command transform journal (argument.getD "")) = .ok values) :
    (invoke surroundings journal arguments).ending = .exit 0 ∧ (invoke surroundings journal arguments).err = "" ∧
      (invoke surroundings journal arguments).out = String.join (values.map (echo ·.render)) := by
  obtain ⟨level, known⟩ := level_of_starts starts
  obtain ⟨logFile, created⟩ := Session.created_of_canLog logs known
  obtain ⟨shows, told⟩ := session.attempt_shows surroundings (agreed_of_starts starts) journal argument
  rw [computed] at shows
  obtain ⟨finished, printed, quiet, -⟩ := shows
  obtain ⟨after, finish, -⟩ := Session.run_finish created reports told
  rw [invoke_of_starts starts, finish]
  exact ⟨by rw [Attempt.ending, finished], quiet, printed⟩

end Command

end Linewise
