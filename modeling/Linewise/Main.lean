import Linewise.Clock
import Linewise.Command
import Std.Time.DateTime.Timestamp

/-! The program: takes a picture of the files a command line speaks of, runs the command on it, and puts
what has changed in place. -/
namespace Linewise.Program

/-- Adds to a tree what there is at a location. -/
def look (tree : FileTree) (location : Location) : IO FileTree := do
  let place := (← IO.currentDir) / ("/" ++ "/".intercalate location)
  if ← place.isDir then return tree.put location .directory
  else if ← place.pathExists then
    let bytes ← IO.FS.readBinFile place
    return tree.put location (.file bytes.toList)
  else return tree

/-- Adds to a tree what there is on the way along a path. -/
def lookAlong (tree : FileTree) (path : String) : IO FileTree := do
  let start := if Path.rootOf path = "" then tree.working else []
  let step (state : FileTree × Location) (name : String) : IO (FileTree × Location) := do
    let (tree, here) := state
    if name = "." then return (tree, here)
    else if name = ".." then return (tree, here.dropLast)
    else return (← look tree (here ++ [name]), here ++ [name])
  return (← (Path.namesOf path).foldlM step (tree, start)).1

/-- Puts an entry in place. -/
def install (location : Location) (entry : Entry) : IO Unit := do
  let place := (← IO.currentDir) / ("/" ++ "/".intercalate location)
  match entry with
  | .directory => IO.FS.createDirAll place
  | .file bytes => IO.FS.writeBinFile place ⟨bytes.toArray⟩

def installChanges (before after : FileTree) : IO Unit :=
  after.entries.forM fun (location, entry) => do
    if before.find? location ≠ some entry then install location entry

/-- The paths a command line leads to, once its settings are known. -/
def pathsOf (session : Session) (command : Command) (words : List String) : List String :=
  let settings := session.settings
  let ofLog (directory : String) : List String :=
    [directory, (Journal.logPath directory command.name session.runId).render]
  let ofReport (directory : String) : List String :=
    [directory, ((Path.parse directory).join
      ("report_" ++ command.name ++ "_" ++ session.runId ++ ".json")).render]
  words ++ (settings.logDirectory.map ofLog).getD [] ++ (settings.reportDirectory.map ofReport).getD []

/-- A picture of the files that matter for a command line. -/
def survey (surroundings : Surroundings) (tree : FileTree) (arguments : List String) : IO FileTree := do
  match Words.parse Command.sharedRules arguments with
  | .error _ => return tree
  | .ok words =>
    match Command.find words with
    | .error _ => return tree
    | .ok (command, rest) =>
      let configPath := words.value? "--config"
      let tree ← configPath.toList.foldlM lookAlong tree
      match Settings.load tree surroundings.environment configPath (Command.overrides words) with
      | .error _ => return tree
      | .ok loaded =>
        let session : Session := ⟨Command.runIdOf surroundings words, loaded.settings, loaded.sources, configPath⟩
        (pathsOf session command rest).foldlM lookAlong tree

def helpText : String :=
  "Usage: linepipe [OPTIONS] COMMAND [ARGS]...\n\n" ++
    "Options:\n" ++
    "  --config TEXT      Path to config.yml\n" ++
    "  --run-id TEXT      Run identifier (UUID). If omitted, generated.\n" ++
    "  --log-level TEXT   Log level: ERROR|WARN|INFO|DEBUG\n" ++
    "  --log-dir TEXT     Directory for logs (file logging is off when unset).\n" ++
    "  --report-dir TEXT  Directory for JSON run reports.\n" ++
    "  --encoding TEXT    Text encoding of input files (default utf-8).\n" ++
    "  --help             Show this message and exit.\n\n" ++
    "Commands:\n" ++
    "  parse-arg  Parse a single command-line value as an integer and print it.\n" ++
    "  lines      Print every line of a text file.\n" ++
    "  numbers    Parse every line of a file as an integer and print the numbers.\n"

def misuseText : Misuse → String
  | .nothingGiven => helpText
  | .unknownOption => "Error: No such option.\n"
  | .badOption => "Error: Option used without its value, or with one it does not take.\n"
  | .wrongWords => "Error: Unknown or missing command, or extra arguments.\n"

/-- Prints what there is to print and gives the exit code. -/
def report (finish : Finish) : IO UInt32 := do
  IO.print finish.out
  IO.eprint finish.err
  match finish.ending with
  | .exit code => return code.toUInt32
  | .help =>
    IO.print helpText
    return 0
  | .misuse misuse =>
    IO.eprint (misuseText misuse)
    return 2
  | .crash fault =>
    IO.eprintln (fault.kind.name ++ ": " ++ fault.message)
    return 1

def environment : IO Environment :=
  SettingKey.all.filterMapM fun key => do
    return (← IO.getEnv key.environmentName).map (key.environmentName, ·)

/-- A random identifier in the usual form: version 4, five groups of hexadecimal digits. -/
def freshId : IO String := do
  let bytes := (← IO.getRandomBytes 16).toList.map UInt8.toNat
  let digits := (bytes.flatMap (Text.hexDigits 2)).set 12 '4'
  let digits := digits.set 16 (Text.hexDigit (8 + bytes.headD 0 % 4))
  let group (start length : Nat) : String := String.ofList ((digits.drop start).take length)
  return "-".intercalate [group 0 8, group 8 4, group 12 4, group 16 4, group 20 12]

def seconds : IO Float := do return (← IO.monoNanosNow).toFloat / 1000000000

end Linewise.Program

section

open Linewise Linewise.Program

def main (arguments : List String) : IO UInt32 := do
  let time ← Std.Time.Timestamp.now
  let nanos := time.toNanosecondsSinceUnixEpoch.val.toNat
  let (now, micros) := (nanos / 1000000000, nanos / 1000 % 1000000)
  let start ← seconds
  let surroundings : Surroundings :=
    ⟨← environment, Clock.iso now micros, ← freshId, start, start⟩
  let working := Path.namesOf (← IO.currentDir).toString
  let above := (List.range working.length).map fun n => (working.take (n + 1), Entry.directory)
  let tree ← survey surroundings ⟨above, working⟩ arguments
  let surroundings := { surroundings with stop := ← seconds }
  let finish := Command.invoke surroundings ⟨tree, [], Clock.stamp now⟩ arguments
  installChanges tree finish.journal.files
  report finish

end
