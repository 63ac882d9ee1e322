import Linewise.FileTree
import Linewise.Level

/-! The journal: named channels through which the events of a run are written to its log file. A channel is
shared by all who know its name and passes events from its level on. The dots of a name lead from the general to the
special, and a channel may send its events on to the one above it. -/
namespace Linewise

/-- One event. A field that was not given is filled in by the log file it goes to. -/
structure Event where
  level : Int
  runId : Option Detail
  component : Option Detail
  message : String
  deriving DecidableEq, Repr

namespace Event

def of (level : Int) (runId component message : String) : Event :=
  ⟨level, some (.text runId), some (.text component), message⟩

/-- Gives the event the fields it lacks. -/
def complete (runId component : String) (event : Event) : Event :=
  { event with
    runId := some (event.runId.getD (.text runId))
    component := some (event.component.getD (.text component)) }

/-- The component of an event that names none. -/
def core : String := "core"

def fieldText : Option Detail → String
  | some detail => detail.plain
  | none => ""

def render (time : String) (event : Event) : String :=
  time ++ " " ++ Level.label event.level ++ " runId=" ++ fieldText event.runId ++ " comp=" ++
    fieldText event.component ++ " msg=" ++ event.message ++ "\n"

end Event

/-- Where a channel's events go. The channel above is the nearest one whose name this one's name goes on from, behind a
dot. -/
inductive Sink
  | nowhere
  | file (location : Location) (level : Int) (runId : String)
  | upward
  deriving DecidableEq, Repr

structure Channel where
  name : String
  level : Int
  sinks : List Sink
  deriving DecidableEq, Repr

namespace Channel

/-- The sinks that belong to the channel itself. -/
def own (channel : Channel) : List Sink := channel.sinks.filter (· ≠ .upward)

def passesOn (channel : Channel) : Bool := channel.sinks.contains .upward

end Channel

/-- The files, the channels over them, and the time stamp of records. -/
structure Journal where
  files : FileTree
  channels : List Channel
  time : String

namespace Journal

def channelName (command runId : String) : String := "linepipe." ++ command ++ "." ++ runId

def find? (journal : Journal) (name : String) : Option Channel := journal.channels.find? (·.name = name)

def putChannel (channel : Channel) : List Channel → List Channel
  | [] => [channel]
  | other :: rest => if other.name = channel.name then channel :: rest else other :: putChannel channel rest

def put (journal : Journal) (channel : Channel) : Journal :=
  { journal with channels := putChannel channel journal.channels }

/-- What stands before each dot of a name, the longest first. -/
def beforeDots : List Char → List (List Char)
  | [] => []
  | c :: rest =>
    let longer := (beforeDots rest).map (c :: ·)
    if c = '.' then longer ++ [[]] else longer

/-- The names above a name, the nearest first. -/
def above (name : String) : List String := (beforeDots name.toList).map String.ofList

/-- The sinks of the channels with some names, up to the first channel that keeps events to itself. -/
def sinksAlong (channels : List Channel) : List String → List Sink
  | [] => []
  | name :: further =>
    match channels.find? (·.name = name) with
    | none => sinksAlong channels further
    | some channel => channel.own ++ if channel.passesOn then sinksAlong channels further else []

/-- The sinks that the events of a channel come to: its own, and those above it if it passes events on. -/
def reach (journal : Journal) (channel : Channel) : List Sink :=
  channel.own ++ if channel.passesOn then sinksAlong journal.channels (above channel.name) else []

/-- A channel that keeps events to itself has them come to its sinks and nowhere else. -/
@[simp] theorem reach_of_kept (journal : Journal) {channel : Channel} (kept : .upward ∉ channel.sinks) :
    journal.reach channel = channel.sinks := by
  have own : channel.own = channel.sinks := by
    refine List.filter_eq_self.mpr ?_
    intro sink member
    have other : sink ≠ .upward := fun upward => kept (upward ▸ member)
    simpa using other
  have keeps : channel.passesOn = false := by simpa [Channel.passesOn] using kept
  simp [reach, own, keeps]

/-- Opens a log file for appending. Its full path is followed. -/
def openLog (files : FileTree) (path : Path) : Except Fault (FileTree × Location) := do
  let location ← files.writable (path.absolute files.working).render
  return (files.touch location, location)

/-- The log file of a run. -/
def logPath (directory command runId : String) : Path :=
  (Path.parse directory).join (command ++ "_" ++ runId ++ ".log")

/-- Makes a run's channel, with its log file if there is a directory for it, and tells the file's path. The
channel keeps events to itself. It loses what it wrote to before, also when the new log file is refused. -/
def create (journal : Journal) (command : String) (directory : Option String) (runId level : String) :
    Journal × Except Fault (Option String) :=
  match Level.find level with
  | .error fault => (journal, .error fault)
  | .ok level =>
    let name := channelName command runId
    let bare := journal.put ⟨name, level, []⟩
    match directory with
    | none | some "" => (bare.put ⟨name, level, [.nowhere]⟩, .ok none)
    | some directory =>
      match bare.files.makeDirectories (Path.parse directory) with
      | (files, some fault) => ({ bare with files }, .error fault)
      | (files, none) =>
        let path := logPath directory command runId
        match openLog files path with
        | .error fault => ({ bare with files }, .error fault)
        | .ok (files, location) =>
          ({ bare with files }.put ⟨name, level, [.file location level runId]⟩, .ok (some path.render))

/-- Takes a channel's own sinks away. -/
def close (journal : Journal) (name : String) : Journal :=
  match journal.find? name with
  | some channel => journal.put { channel with sinks := channel.sinks.filter (· = .upward) }
  | none => journal

/-- The records of events in a log file. -/
def records (time : String) (level : Int) (runId : String) (events : List Event) : List UInt8 :=
  (events.filter (level ≤ ·.level)).flatMap fun event =>
    Text.Utf8.encode ((event.complete runId Event.core).render time).toList

def writeTo (time : String) (events : List Event) (files : FileTree) : Sink → FileTree
  | .nowhere | .upward => files
  | .file location level runId => files.append location (records time level runId events)

/-- What an event that comes to no sink still shows on the console: its text, from warnings on. -/
def lastResort (event : Event) : String :=
  if Level.warning ≤ event.level then event.message ++ "\n" else ""

/-- Sends events through a channel, in order; the text is what appears on the console. -/
def emit (journal : Journal) (name : String) (events : List Event) : Journal × String :=
  match journal.find? name with
  | none => (journal, "")
  | some channel =>
    let passed := events.filter (channel.level ≤ ·.level)
    let sinks := journal.reach channel
    if sinks = [] then (journal, String.join (passed.map lastResort))
    else ({ journal with files := sinks.foldl (writeTo journal.time passed) journal.files }, "")

end Journal

end Linewise
