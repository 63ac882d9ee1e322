import Linewise.FileTree

/-! The report of a command: how it ended, what it ran with, and the JSON file in which that is kept. -/
namespace Linewise

structure Report where
  runId : String
  command : String
  startedAt : String
  source : Option String
  finishedAt : Option String
  duration : Option Int
  count : Int
  failure : Option Failure
  unexpected : Option Fault
  context : List (String × Json)

namespace Report

/-- A time that was not given, or given as an empty text, is the present. -/
def timeOr (now : String) : Option String → String
  | none | some "" => now
  | some time => time

def start (now runId command : String) (startedAt : Option String) : Report where
  runId := runId
  command := command
  startedAt := timeOr now startedAt
  source := none
  finishedAt := none
  duration := none
  count := 0
  failure := none
  unexpected := none
  context := []

def note (report : Report) (name : String) (value : Json) : Report :=
  { report with context := Json.setField name value report.context }

/-- A report that knows where its settings came from. -/
def startWith (now runId command : String) (sources : List String) : Report :=
  let report := start now runId command none
  if sources = [] then report
  else report.note "config" (.object [("sources", .list (sources.map .text))])

def readFrom (report : Report) (source : Option String) : Report := { report with source }

/-- Success takes a failure back, but not a fault nobody expected. -/
def succeed (report : Report) (count : Int) : Report := { report with count, failure := none }

def failWith (report : Report) (failure : Failure) : Report :=
  { report with count := 0, failure := some failure }

def crashWith (report : Report) (fault : Fault) : Report :=
  { report with count := 0, unexpected := some fault }

def finish (now : String) (report : Report) (finishedAt : Option String) (duration : Option Int) : Report :=
  { report with finishedAt := some (timeOr now finishedAt), duration }

/-- What a command ran with. -/
structure Circumstances where
  logFile : Option String
  logLevel : String
  reportDirectory : Option String
  encoding : String
  configPath : Option String

def Circumstances.toJson (c : Circumstances) : Json :=
  .object [
    ("log_file", Json.optional .text c.logFile),
    ("log_level", .text c.logLevel),
    ("report_dir", Json.optional .text c.reportDirectory),
    ("encoding", .text c.encoding),
    ("config_path", Json.optional .text c.configPath)]

def finalize (now : String) (report : Report) (duration : Option Int) (circumstances : Circumstances) : Report :=
  (report.note "runtime" circumstances.toJson).finish now none duration

def status (report : Report) : String :=
  if report.failure.isSome || report.unexpected.isSome then "failed" else "ok"

/-- A failure comes before a fault nobody expected. -/
def errorJson (report : Report) : Json :=
  match report.failure, report.unexpected with
  | some failure, _ => failure.toJson
  | none, some fault =>
    .object [("kind", .text "UNEXPECTED_ERROR"), ("message", .text fault.message),
      ("type", .text fault.kind.name)]
  | none, none => .null

def metaJson (report : Report) : Json :=
  .object [
    ("run_id", .text report.runId),
    ("command", .text report.command),
    ("started_at", .text report.startedAt),
    ("source", Json.optional .text report.source),
    ("finished_at", Json.optional .text report.finishedAt),
    ("duration_ms", Json.optional .int report.duration)]

def toJson (report : Report) : Json :=
  .object [
    ("status", .text report.status),
    ("meta", report.metaJson),
    ("values_count", .int report.count),
    ("error", report.errorJson),
    ("context", .object report.context)]

def render (report : Report) : String := report.toJson.render (.indented 2) 0

/-- Writes the report into a directory, which is made if need be, and tells the file's path. -/
def write (report : Report) (files : FileTree) (directory base : String) : FileTree × Except Fault String :=
  match files.makeDirectories (Path.parse directory) with
  | (files, some fault) => (files, .error fault)
  | (files, none) =>
    let path := ((Path.parse directory).join (base ++ ".json")).render
    match files.writable path with
    | .error fault => (files, .error fault)
    | .ok location => (files.put location (.file (Text.Utf8.encode report.render.toList)), .ok path)

end Report

end Linewise
