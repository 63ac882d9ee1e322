import Linewise.Pipeline
import Linewise.Proofs.FileNames

/-! What telling the journal may change: the log files of the channel it goes through, and nothing else. -/
namespace Linewise

/-- A directory that is asked for: one that is given and not blank. -/
def IsSet (setting : Option String) (directory : String) : Prop := setting = some directory ∧ directory ≠ ""

def Unset (setting : Option String) : Prop := ∀ directory, ¬ IsSet setting directory

/-- The file a sink writes to. -/
def Sink.log? : Sink → Option Location
  | .nowhere | .upward => none
  | .file location _ _ => some location

namespace FileTree

/-- A later tree in which some files have been added to, and nothing else was done. -/
inductive Appended (logs : List Location) (tree : FileTree) : FileTree → Prop
  | refl : Appended logs tree tree
  | append {other : FileTree} {location : Location} (earlier : Appended logs tree other) (member : location ∈ logs)
      (bytes : List UInt8) : Appended logs tree (other.append location bytes)

variable {logs : List Location} {tree other third : FileTree}

theorem Appended.trans (first : Appended logs tree other) (second : Appended logs other third) :
    Appended logs tree third := by
  induction second with
  | refl => exact first
  | append earlier member bytes ih => exact .append ih member bytes

theorem Appended.alike (appended : Appended logs tree other) : Alike logs tree other := by
  induction appended with
  | refl => exact .refl logs tree
  | append earlier member bytes ih => exact ih.trans (alike_append _ member bytes)

end FileTree

namespace Journal

open FileTree (Alike Appended)

/-- The log files that the events of a channel come to. -/
def logs (journal : Journal) (name : String) : List Location :=
  (((journal.find? name).map journal.reach).getD []).filterMap Sink.log?

/-- Only the channels decide which log files events come to. -/
theorem logs_congr {journal other : Journal} (same : other.channels = journal.channels) (name : String) :
    other.logs name = journal.logs name := by
  have alike : other.reach = journal.reach := by
    funext channel
    simp only [reach, same]
  simp only [logs, find?, same, alike]

/-- A later journal that has been told something through one channel. -/
structure Told (name : String) (before after : Journal) : Prop where
  channels : after.channels = before.channels
  appended : Appended (before.logs name) before.files after.files

section

variable {name : String} {before between after : Journal}

theorem Told.refl (name : String) (journal : Journal) : Told name journal journal := ⟨rfl, .refl⟩

theorem Told.files (told : Told name before after) : Alike (before.logs name) before.files after.files :=
  told.appended.alike

theorem Told.logs (told : Told name before after) : after.logs name = before.logs name := logs_congr told.channels name

theorem Told.trans (first : Told name before between) (second : Told name between after) :
    Told name before after where
  channels := second.channels.trans first.channels
  appended := first.appended.trans (first.logs ▸ second.appended)

end

theorem appended_foldl_writeTo (time : String) (events : List Event) {logs : List Location} {sinks : List Sink}
    (inside : ∀ sink ∈ sinks, ∀ location, sink.log? = some location → location ∈ logs) (files : FileTree) :
    Appended logs files (sinks.foldl (writeTo time events) files) := by
  induction sinks generalizing files with
  | nil => exact .refl
  | cons sink rest ih =>
    have first : Appended logs files (writeTo time events files sink) := by
      cases sink with
      | nowhere | upward => exact .refl
      | file location level runId =>
        have member := inside (.file location level runId) (by simp) location rfl
        exact .append .refl member _
    exact first.trans (ih (fun sink member => inside sink (by simp [member])) _)

theorem told_emit (journal : Journal) (name : String) (events : List Event) :
    Told name journal (journal.emit name events).1 := by
  unfold emit
  cases found : journal.find? name with
  | none => exact .refl name journal
  | some channel =>
    simp only
    split
    · exact .refl name journal
    · refine ⟨rfl, appended_foldl_writeTo _ _ ?_ journal.files⟩
      intro sink member location writes
      exact List.mem_filterMap.mpr ⟨sink, by simpa [found] using member, writes⟩

theorem find?_putChannel (channel : Channel) (channels : List Channel) :
    (putChannel channel channels).find? (·.name = channel.name) = some channel := by
  induction channels with
  | nil => simp [putChannel]
  | cons other rest ih =>
    by_cases same : other.name = channel.name
    · simp [putChannel, same]
    · simpa [putChannel, same] using ih

theorem find?_put_self (journal : Journal) (channel : Channel) :
    (journal.put channel).find? channel.name = some channel := find?_putChannel channel journal.channels

theorem find?_put_other (journal : Journal) {channel : Channel} {name : String} (other : name ≠ channel.name) :
    (journal.put channel).find? name = journal.find? name := by
  simp only [find?, put]
  induction journal.channels with
  | nil => simp [putChannel, Ne.symm other]
  | cons first rest ih =>
    by_cases same : first.name = channel.name
    · simp [putChannel, same, Ne.symm other]
    · by_cases here : first.name = name
      · simp [putChannel, here, other]
      · simpa [putChannel, same, here] using ih

theorem name_of_find? {journal : Journal} {name : String} {channel : Channel}
    (found : journal.find? name = some channel) : channel.name = name := by
  simpa using List.find?_some found

/-- A channel that is put in place is the one that goes by its name. -/
theorem logs_put (journal : Journal) (name : String) (level : Int) {sinks : List Sink} (kept : .upward ∉ sinks) :
    (journal.put ⟨name, level, sinks⟩).logs name = sinks.filterMap Sink.log? := by
  have found : (journal.put ⟨name, level, sinks⟩).find? name = some ⟨name, level, sinks⟩ := journal.find?_put_self _
  have whole : (journal.put ⟨name, level, sinks⟩).reach ⟨name, level, sinks⟩ = sinks := reach_of_kept _ kept
  simp only [logs, found, Option.map_some, whole, Option.getD_some]

@[simp] theorem files_close (journal : Journal) (name : String) : (journal.close name).files = journal.files := by
  unfold close
  split <;> rfl

theorem find?_close_other (journal : Journal) {closed name : String} (other : name ≠ closed) :
    (journal.close closed).find? name = journal.find? name := by
  unfold close
  split
  next channel found =>
    apply find?_put_other
    rwa [name_of_find? found]
  next => rfl

/-- A channel that is closed has nothing of its own left. -/
theorem own_of_close {journal : Journal} {name : String} {channel : Channel}
    (found : (journal.close name).find? name = some channel) : channel.own = [] := by
  unfold close at found
  split at found
  next closed held =>
    obtain rfl : closed.name = name := name_of_find? held
    have placed := journal.find?_put_self { closed with sinks := closed.sinks.filter (· = .upward) }
    rw [← Option.some.inj (placed.symm.trans found)]
    simp [Channel.own, List.filter_filter]
  next missing =>
    rw [found] at missing
    cases missing

theorem endsIn_logPath (directory command runId : String) :
    EndsIn ".log".toList (logPath directory command runId).names := by
  refine Path.endsIn_join (by decide) (by decide) (Path.parse directory) ?_
  simp only [String.toList_append]
  exact List.suffix_append _ _

theorem writable_of_openLog {files touched : FileTree} {path : Path} {location : Location}
    (opened : openLog files path = .ok (touched, location)) :
    files.writable (path.absolute files.working).render = .ok location ∧ touched = files.touch location := by
  unfold openLog at opened
  cases written : files.writable (path.absolute files.working).render with
  | error fault => rw [written] at opened; cases opened
  | ok place => rw [written] at opened; cases opened; exact ⟨rfl, rfl⟩

/-- A channel that has been made, with the level that was named. It writes nowhere, or to the log file in the directory
that was asked for. -/
inductive Created (journal : Journal) (command runId name : String) (directory : Option String) :
    Journal → Option String → Prop
  | silent {level : Int} (known : Level.find name = .ok level) (unset : Unset directory) :
      Created journal command runId name directory
        ((journal.put ⟨channelName command runId, level, []⟩).put ⟨channelName command runId, level, [.nowhere]⟩) none
  | logged {level : Int} {place : String} {files : FileTree} {location : Location}
      (known : Level.find name = .ok level) (set : IsSet directory place)
      (made : journal.files.makeDirectories (Path.parse place) = (files, none))
      (written : files.writable ((logPath place command runId).absolute files.working).render = .ok location) :
      Created journal command runId name directory
        ({ journal.put ⟨channelName command runId, level, []⟩ with files := files.touch location }.put
          ⟨channelName command runId, level, [.file location level runId]⟩)
        (some (logPath place command runId).render)

section

variable {journal after : Journal} {command runId name : String} {directory logFile : Option String} {fault : Fault}

theorem created_of_create (created : journal.create command directory runId name = (after, .ok logFile)) :
    Created journal command runId name directory after logFile := by
  unfold create at created
  split at created
  · cases created
  rename_i level known
  simp only at created
  split at created
  · cases created
    exact .silent known (by simp [Unset, IsSet])
  · cases created
    exact .silent known (by simp [Unset, IsSet])
  rename_i place filled
  split at created
  · cases created
  rename_i files made
  split at created
  · cases created
  rename_i touched location opening
  cases created
  obtain ⟨written, rfl⟩ := writable_of_openLog opening
  exact .logged known ⟨rfl, filled⟩ made written

/-- A new channel has one sink, and keeps events to itself. -/
theorem Created.sink (created : Created journal command runId name directory after logFile) :
    ∃ level sink, sink ≠ .upward ∧
      after.find? (channelName command runId) = some ⟨channelName command runId, level, [sink]⟩ := by
  cases created with
  | @silent level => exact ⟨level, .nowhere, by simp, find?_put_self _ _⟩
  | @logged level _ _ location => exact ⟨level, .file location level runId, by simp, find?_put_self _ _⟩

/-- A channel that is refused has made directories on the way to its log, if that. -/
theorem files_of_create_error (refused : journal.create command directory runId name = (after, .error fault)) :
    after.files = journal.files ∨
      ∃ place, IsSet directory place ∧ after.files = (journal.files.makeDirectories (Path.parse place)).1 := by
  unfold create at refused
  split at refused
  · cases refused
    exact .inl rfl
  simp only at refused
  split at refused
  · cases refused
  · cases refused
  rename_i place filled
  right
  refine ⟨place, ⟨rfl, filled⟩, ?_⟩
  split at refused
  · rename_i files cause made
    cases refused
    exact (congrArg Prod.fst made).symm
  rename_i files made
  split at refused
  · cases refused
    exact (congrArg Prod.fst made).symm
  · cases refused

/-- A run's own log files are named so. -/
theorem endsIn_of_create (created : journal.create command directory runId name = (after, .ok logFile))
    {location : Location} (member : location ∈ after.logs (channelName command runId)) :
    EndsIn ".log".toList location := by
  cases created_of_create created with
  | silent known unset => simp [logs_put, Sink.log?] at member
  | logged known set made written =>
    obtain rfl := List.mem_singleton.mp (by simpa [logs_put, Sink.log?] using member)
    apply FileTree.endsIn_of_writable (by decide) (by decide) ?_ written
    exact Path.suffix_render (Path.endsIn_absolute (by decide) _ (endsIn_logPath _ command runId))

end

end Journal

namespace Pipeline

open Journal (Told)

section

variable (pipeline : Pipeline) {name : String} (channel : pipeline.channel = some name)

include channel

theorem told_tell (journal : Journal) (events : List Event) : Told name journal (pipeline.tell journal events) := by
  simp only [tell, channel]
  exact journal.told_emit name events

theorem told_gatherTold (journal : Journal) (path : String) : Told name journal (pipeline.gatherTold journal path).1 :=
  (told_tell pipeline channel journal _).trans (told_tell pipeline channel _ _)

theorem told_run (journal : Journal) (occasion : Nat) (path : String) :
    Told name journal (pipeline.run journal occasion path).1 := by
  have told := told_gatherTold pipeline channel journal path
  simp only [run]
  split
  · exact told
  · split
    · exact told.trans (told_tell pipeline channel _ _)
    · exact told

end

/-- A path does not lead to a log file that the pipeline writes to. -/
def SparesLog (pipeline : Pipeline) (journal : Journal) (path : String) : Prop :=
  ∀ name, pipeline.channel = some name → ∀ location ∈ journal.logs name, ∀ entry,
    journal.files.resolve path ≠ .ok (.entry location entry)

/-- What is told goes to the log, so that another file is read as it was. -/
theorem SparesLog.read_tell {pipeline : Pipeline} {journal : Journal} {path : String}
    (spares : pipeline.SparesLog journal path) (events : List Event) :
    (pipeline.tell journal events).files.read path = journal.files.read path := by
  cases channel : pipeline.channel with
  | none => simp only [tell, channel]
  | some name => exact (told_tell pipeline channel journal events).files.read (spares name channel)

end Pipeline

end Linewise
