import Linewise.Journal
import Linewise.LineReader
import Linewise.Outcome
import Linewise.Transform

/-! A pipeline opens a source, transforms its lines in order and collects the values. The first fault
stops it, and the source is closed on every way out. What it does is told to the journal. -/
namespace Linewise

/-- How a path is opened, given the files as they are. -/
abbrev Opener := FileTree → (path encoding : String) → Except Fault LineReader

structure Pipeline where
  transform : Option Transform
  encoding : String
  runId : String
  channel : Option String
  opener : Opener

namespace Pipeline

/-- What was made of a source: the values, and the fault that stopped it short of the end. -/
structure Drive where
  values : List Value
  stop : Option Fault
  source : LineReader

/-- The values, unless a fault came before the end. -/
def Drive.result (drive : Drive) : Except Fault (List Value) :=
  match drive.stop with
  | none => .ok drive.values
  | some fault => .error fault

def driveFrom (transform : Option Transform) : (fuel count : Nat) → LineReader → Drive
  | 0, _, source => ⟨[], none, source⟩
  | fuel + 1, count, source =>
    match source.next with
    | (.ended, source) => ⟨[], none, source⟩
    | (.failed failure, source) => ⟨[], some failure.toFault, source⟩
    | (.fault fault, source) => ⟨[], some fault, source⟩
    | (.line text, source) =>
      match Transform.run transform (some (count + 1 : Nat)) text with
      | .error fault => ⟨[], some fault, source⟩
      | .ok value =>
        let drive := driveFrom transform fuel (count + 1) source
        { drive with values := value :: drive.values }

/-- Takes every line of a source, then closes it. -/
def drive (transform : Option Transform) (source : LineReader) : Drive :=
  let drive := driveFrom transform (source.handle.script.length + 1) 0 source
  { drive with source := drive.source.close }

/-- What was gathered: the result, how many lines were accepted on the way, and the source if one was
opened. -/
structure Gathering where
  result : Except Fault (List Value)
  accepted : Nat
  source : Option LineReader

def gather (pipeline : Pipeline) (files : FileTree) (path : String) : Gathering :=
  match pipeline.opener files path pipeline.encoding with
  | .error fault => ⟨.error fault, 0, none⟩
  | .ok source =>
    let drive := drive pipeline.transform source
    ⟨drive.result, drive.values.length, some drive.source⟩

def event (pipeline : Pipeline) (level : Int) (message : String) : Event :=
  .of level pipeline.runId "pipeline" message

/-- Told before the source is opened. -/
def opening (pipeline : Pipeline) (path : String) : Event :=
  pipeline.event Level.info ("Open source path=" ++ path ++ " transform=" ++ Transform.label pipeline.transform)

def accepted (pipeline : Pipeline) (number : Nat) : Event :=
  pipeline.event Level.debug ("Line " ++ toString number ++ " accepted")

def exhausted (pipeline : Pipeline) (count : Nat) : Event :=
  pipeline.event Level.info ("Source exhausted values=" ++ toString count)

def aborted (pipeline : Pipeline) (failure : Failure) : Event :=
  pipeline.event Level.error ("Run aborted kind=" ++ failure.kind ++ ": " ++ failure.message)

/-- Told about a gathering after the opening. -/
def progress (pipeline : Pipeline) (gathering : Gathering) : List Event :=
  (List.range gathering.accepted).map (fun i => pipeline.accepted (i + 1)) ++
    match gathering.result with
    | .ok values => [pipeline.exhausted values.length]
    | .error _ => []

def tell (pipeline : Pipeline) (journal : Journal) (events : List Event) : Journal :=
  match pipeline.channel with
  | none => journal
  | some channel => (journal.emit channel events).1

/-- Collects the values of a file as the journal leaves it, and tells about it. -/
def gatherTold (pipeline : Pipeline) (journal : Journal) (path : String) : Journal × Gathering :=
  let journal := pipeline.tell journal [pipeline.opening path]
  let gathering := pipeline.gather journal.files path
  (pipeline.tell journal (pipeline.progress gathering), gathering)

/-- A run: its outcome, unless a fault passes through that no stage accounts for. -/
structure Run where
  outcome : Except Fault Outcome
  source : Option LineReader

def run (pipeline : Pipeline) (journal : Journal) (occasion : Nat) (path : String) : Journal × Run :=
  let (journal, gathering) := pipeline.gatherTold journal path
  match gathering.result with
  | .ok values => (journal, ⟨.ok (.ofValues values), gathering.source⟩)
  | .error fault =>
    match Failure.ofFault? fault with
    | some failure =>
      (pipeline.tell journal [pipeline.aborted failure],
        ⟨.ok (.ofFailure ⟨occasion, fault⟩), gathering.source⟩)
    | none => (journal, ⟨.error fault, gathering.source⟩)

end Pipeline

end Linewise
