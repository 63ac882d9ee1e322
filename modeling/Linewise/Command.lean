import Linewise.Argument
import Linewise.Arguments
import Linewise.Duration
import Linewise.Pipeline
import Linewise.Report
import Linewise.Settings
import Linewise.Text.Escape

/-! The commands. Each runs with its settings, tells the journal what it does, and leaves a report if
there is a place for one. -/
namespace Linewise

inductive Command
  | lines
  | numbers
  | parseArgument
  deriving DecidableEq, Repr

namespace Command

def all : List Command := [lines, numbers, parseArgument]

def name : Command → String
  | lines => "lines"
  | numbers => "numbers"
  | parseArgument => "parse-arg"

def named? (name : String) : Option Command := all.find? (·.name = name)

/-- The options before the command. -/
def sharedRules : WordRules :=
  ⟨["--config", "--run-id", "--log-level", "--log-dir", "--report-dir", "--encoding"], false, false⟩

/-- A value to parse may start with a dash. -/
def rules : Command → WordRules
  | lines => ⟨[], true, false⟩
  | numbers => ⟨["--type"], true, false⟩
  | parseArgument => ⟨[], true, true⟩

end Command

/-- What a command finds around it: the environment, the time, a new name for the run, and the clock at
its start and at its end. -/
structure Surroundings where
  environment : Environment
  now : String
  freshId : String
  start : Float
  stop : Float

/-- How a command line ends. -/
inductive Ending
  | exit (code : Nat)
  | help
  | misuse (misuse : Misuse)
  | crash (fault : Fault)

/-- An end, what was printed, and the journal with the files as they are then. -/
structure Finish where
  ending : Ending
  out : String
  err : String
  journal : Journal

/-- A line of output. -/
def echo (text : String) : String := Text.stripEscapes text ++ "\n"

/-- A run: its name, its settings and where they came from. -/
structure Session where
  runId : String
  settings : Settings
  sources : List String
  configPath : Option String

/-- What a command's own work came to: an exit code, or a fault that nothing accounts for. -/
structure Attempt where
  result : Except Fault Nat
  out : String
  err : String
  report : Report
  journal : Journal

namespace Session

def channel (session : Session) (command : Command) : String :=
  Journal.channelName command.name session.runId

def tell (session : Session) (command : Command) (journal : Journal) (level : Int) (component message : String) :
    Journal :=
  (journal.emit (session.channel command) [.of level session.runId component message]).1

def sourcesText (session : Session) : String :=
  "[" ++ ", ".intercalate (session.sources.map Text.quote) ++ "]"

/-- A failure is reported in one line. -/
def fail (failure : Failure) (report : Report) (journal : Journal) : Attempt :=
  ⟨.ok 1, "", echo failure.message, report.failWith failure, journal⟩

/-- Runs a pipeline over the file and prints the values once all are there. -/
def readFile (session : Session) (command : Command) (transform : Option Transform) (path : Option String)
    (report : Report) (journal : Journal) : Attempt :=
  match Argument.first [path] "filename" with
  | .error failure =>
    let journal := session.tell command journal Level.error "args"
      ("Argument resolution failed: " ++ failure.message)
    fail failure report journal
  | .ok path =>
    let report := report.readFrom (some path)
    let pipeline : Pipeline :=
      ⟨transform, session.settings.encoding, session.runId, some (session.channel command),
        LineReader.openFile⟩
    let (journal, run) := pipeline.run journal 0 path
    match run.outcome with
    | .error fault => ⟨.error fault, "", "", report, journal⟩
    | .ok outcome =>
      match outcome.failure.bind fun occurrence => Failure.ofFault? occurrence.fault with
      | some failure => fail failure report journal
      | none =>
        let out := String.join (outcome.values.map fun value => echo value.render)
        ⟨.ok 0, out, "", report.succeed outcome.values.length, journal⟩

/-- Reads the argument as an integer and prints it. -/
def parseValue (session : Session) (argument : Option String) (report : Report) (journal : Journal) : Attempt :=
  let reject (failure : Failure) (report : Report) : Attempt :=
    let journal := session.tell .parseArgument journal Level.error "args"
      ("Argument rejected kind=" ++ failure.kind)
    fail failure report journal
  match Argument.first [argument] "argument" with
  | .error failure => reject failure report
  | .ok text =>
    let report := report.readFrom (some text)
    match Transform.run (some (.integer .i32 false)) none text with
    | .ok value => ⟨.ok 0, echo value.render, "", report.succeed 1, journal⟩
    | .error fault =>
      match Failure.ofFault? fault with
      | some failure => reject failure report
      | none => ⟨.error fault, "", "", report, journal⟩

/-- Finishes and writes the report, if there is a directory for it. -/
def conclude (session : Session) (surroundings : Surroundings) (command : Command) (logFile : Option String)
    (report : Report) (journal : Journal) : Journal × Option Fault :=
  match session.settings.reportDirectory with
  | none | some "" => (journal, none)
  | some directory =>
    match Duration.between surroundings.start surroundings.stop with
    | .error fault => (journal, some fault)
    | .ok duration =>
      let settings := session.settings
      let report := report.finalize surroundings.now (some duration)
        ⟨logFile, settings.logLevel, settings.reportDirectory, settings.encoding, session.configPath⟩
      let base := "report_" ++ command.name ++ "_" ++ session.runId
      match report.write journal.files directory base with
      | (files, .error fault) => ({ journal with files }, some fault)
      | (files, .ok path) =>
        (session.tell command { journal with files } Level.info "report" ("Report written: " ++ path), none)

/-- Does a command's work with a log and a report around it. When the report cannot be written, that is
how the run ends, and the channel stays open. -/
def run (session : Session) (surroundings : Surroundings) (command : Command) (journal : Journal)
    (work : Report → Journal → Attempt) : Finish :=
  let settings := session.settings
  match journal.create command.name settings.logDirectory session.runId settings.logLevel with
  | (journal, .error fault) => ⟨.crash fault, "", "", journal⟩
  | (journal, .ok logFile) =>
    let report := Report.startWith surroundings.now session.runId command.name session.sources
    let journal := session.tell command journal Level.info "core"
      ("Command started config_sources=" ++ session.sourcesText)
    let attempt := work report journal
    let (ending, report, journal) : Ending × Report × Journal :=
      match attempt.result with
      | .ok code =>
        (.exit code, attempt.report,
          session.tell command attempt.journal Level.info "core"
            ("Command finished exit_code=" ++ toString code))
      | .error fault =>
        (.crash fault, attempt.report.crashWith fault,
          session.tell command attempt.journal Level.error "core"
            ("Command crashed: " ++ fault.kind.name ++ ": " ++ fault.message))
    match session.conclude surroundings command logFile report journal with
    | (journal, some fault) => ⟨.crash fault, attempt.out, attempt.err, journal⟩
    | (journal, none) => ⟨ending, attempt.out, attempt.err, journal.close (session.channel command)⟩

end Session

namespace Command

def stopWith (journal : Journal) (ending : Ending) : Finish := ⟨ending, "", "", journal⟩

/-- An error in what was asked for. -/
def refuse (journal : Journal) (fault : Fault) : Finish := ⟨.exit 2, "", echo ("ERROR: " ++ fault.message), journal⟩

/-- Reads a command's own words and runs it. -/
def runWords (command : Command) (session : Session) (surroundings : Surroundings) (journal : Journal)
    (words : List String) : Finish :=
  match Words.parse command.rules words with
  | .error misuse => stopWith journal (.misuse misuse)
  | .ok words =>
    if words.help then stopWith journal .help
    else if 1 < words.positional.length then stopWith journal (.misuse .wrongWords)
    else
      let argument := words.positional.head?
      match command with
      | lines => session.run surroundings lines journal (session.readFile lines none argument)
      | parseArgument => session.run surroundings parseArgument journal (session.parseValue argument)
      | numbers =>
        match Transform.find ((words.value? "--type").getD "u64") with
        | .error fault => refuse journal fault
        | .ok transform =>
          session.run surroundings numbers journal (session.readFile numbers (some transform) argument)

/-- The values given on the command line. -/
def overrides (words : Words) : Overrides :=
  let given (name : String) : Value :=
    match words.value? name with
    | some value => .text value
    | none => .none
  [("log_level", given "--log-level"), ("log_dir", given "--log-dir"),
    ("report_dir", given "--report-dir"), ("encoding", given "--encoding")]

/-- The run's name: the one given, or a new one. -/
def runIdOf (surroundings : Surroundings) (words : Words) : String :=
  match words.value? "--run-id" with
  | none | some "" => surroundings.freshId
  | some runId => runId

/-- A command line up to its command: the shared options, the command and the words after it. Words that
name no command are looked at once more as options, whose faults come first. -/
def find (words : Words) : Except Ending (Command × List String) :=
  match words.positional with
  | [] => .error (.misuse .wrongWords)
  | name :: rest =>
    match named? name with
    | some command => .ok (command, rest)
    | none =>
      match Words.parse sharedRules (name :: rest) with
      | .error misuse => .error (.misuse misuse)
      | .ok again => if again.help then .error .help else .error (.misuse .wrongWords)

/-- Runs a command line: shared options, command, settings, and then the command with its words. -/
def invoke (surroundings : Surroundings) (journal : Journal) (arguments : List String) : Finish :=
  if arguments = [] then stopWith journal (.misuse .nothingGiven)
  else
    match Words.parse sharedRules arguments with
    | .error misuse => stopWith journal (.misuse misuse)
    | .ok words =>
      if words.help then stopWith journal .help
      else
        match find words with
        | .error ending => stopWith journal ending
        | .ok (command, rest) =>
          let configPath := words.value? "--config"
          match Settings.load journal.files surroundings.environment configPath (overrides words) with
          | .error fault =>
            if fault.isA .settings then refuse journal fault else stopWith journal (.crash fault)
          | .ok loaded =>
            let session : Session := ⟨runIdOf surroundings words, loaded.settings, loaded.sources, configPath⟩
            command.runWords session surroundings journal rest

end Command

end Linewise
