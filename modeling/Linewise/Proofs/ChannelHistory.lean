import Linewise.Proofs.FullPaths
import Linewise.Proofs.LogTrace

/-! Channels that are made, made again, closed and told through in any order, under names of which some go on from
others. Every event from its channel's level on is in the log file that the channel was last given, once and in the
order of telling. No other event is in any file, and nothing appears on the console. -/
namespace Linewise

open FileTree (place IsPlain Extends)

theorem ne_nil_of_endsIn {ending : List Char} {names : List String} (ends : EndsIn ending names) : names ≠ [] := by
  rintro rfl
  obtain ⟨name, last, -⟩ := ends
  cases last

namespace FileTree

variable {way : Location → Prop} {tree other : FileTree} {location : Location}

theorem bytesAt_of_extends (extended : Extends way tree other) (location : Location) :
    other.bytesAt location = tree.bytesAt location := by
  rcases extended.find location with same | ⟨-, absent, made⟩
  · rw [bytesAt, bytesAt, same]
  · rw [bytesAt, bytesAt, absent, made]

theorem find?_of_extends (extended : Extends way tree other) {entry : Entry}
    (found : tree.find? location = some entry) : other.find? location = some entry := by
  rcases extended.find location with same | ⟨-, absent, -⟩
  · rw [same, found]
  · rw [found] at absent
    cases absent

/-- A file that is opened anew is empty, and any other is as it was. -/
theorem touch_cases (tree : FileTree) (location : Location) :
    tree.touch location = tree ∨
      location ≠ [] ∧ tree.find? location = none ∧ tree.touch location = tree.put location (.file []) := by
  unfold touch
  cases found : tree.find? location with
  | some entry => exact .inl rfl
  | none => exact .inr ⟨ne_nil_of_find? found (by simp), rfl, rfl⟩

theorem bytesAt_touch (tree : FileTree) (location other : Location) :
    (tree.touch location).bytesAt other = tree.bytesAt other := by
  rcases tree.touch_cases location with same | ⟨inside, absent, opened⟩
  · rw [same]
  · rw [opened, bytesAt, bytesAt]
    by_cases here : other = location
    · rw [here, find?_put_self _ _ _ inside, absent]
    · rw [find?_put_other _ _ _ _ here]

theorem working_touch (tree : FileTree) (location : Location) : (tree.touch location).working = tree.working := by
  rcases tree.touch_cases location with same | ⟨-, -, opened⟩
  · rw [same]
  · rw [opened]
    rfl

theorem find?_touch {entry : Entry} (other : Location) (found : tree.find? location = some entry) :
    (tree.touch other).find? location = some entry := by
  rcases tree.touch_cases other with same | ⟨-, absent, opened⟩
  · rw [same, found]
  · have apart : location ≠ other := by
      rintro rfl
      rw [found] at absent
      cases absent
    rw [opened, find?_put_other _ _ _ _ apart, found]

end FileTree

namespace Journal

/-- Something done with a journal: a channel was made, with a level and a log file if it was given one; a channel was
closed; an event was told through one. -/
inductive Call
  | made (name : String) (level : Int) (logFile : Option String)
  | closed (name : String)
  | told (name : String) (event : Event)
  deriving DecidableEq

/-- How a channel was made. -/
structure Opening where
  level : Int
  logFile : Option String
  deriving DecidableEq

/-- What a call leaves of the last making of a channel. -/
def Opening.after (name : String) (last : Option Opening) : Call → Option Opening
  | .made other level logFile => if other = name then some ⟨level, logFile⟩ else last
  | .closed other => if other = name then none else last
  | .told _ _ => last

/-- The last making of a channel, unless it has been closed since. -/
def opening? (name : String) (calls : List Call) : Option Opening := calls.foldl (Opening.after name) none

/-- The event has a place in a log, by the way its channel was made. -/
def Opening.admits (working location : Location) (event : Event) (opening : Opening) : Bool :=
  opening.level ≤ event.level && opening.logFile.map (place working) = some location

/-- The event that a call adds to the log at a place, if any. -/
def arriving (working location : Location) (earlier : List Call) : Call → List Event
  | .told name event => if (opening? name earlier).any (·.admits working location event) then [event] else []
  | .made _ _ _ | .closed _ => []

/-- The events that belong in the log at a place, in the order of telling. -/
def logged (working location : Location) : (earlier later : List Call) → List Event
  | _, [] => []
  | earlier, call :: later =>
    arriving working location earlier call ++ logged working location (earlier ++ [call]) later

/-- Calls that succeed one after another, where events are told through channels that are open. The text is what appears
on the console. -/
inductive History (start : Journal) : List Call → Journal → String → Prop
  | start : History start [] start ""
  | make {calls : List Call} {journal after : Journal} {console command runId levelName : String}
      {directory logFile : Option String} {level : Int} (earlier : History start calls journal console)
      (known : Level.find levelName = .ok level)
      (created : journal.create command directory runId levelName = (after, .ok logFile)) :
      History start (calls ++ [.made (channelName command runId) level logFile]) after console
  | close {calls : List Call} {journal : Journal} {console : String} (earlier : History start calls journal console)
      (name : String) : History start (calls ++ [.closed name]) (journal.close name) console
  | tell {calls : List Call} {journal : Journal} {console name : String} {opening : Opening}
      (earlier : History start calls journal console) (isOpen : opening? name calls = some opening) (level : Int)
      (runId component message : String) :
      History start (calls ++ [.told name (.of level runId component message)])
        (journal.emit name [.of level runId component message]).1
        (console ++ (journal.emit name [.of level runId component message]).2)

/-- The path that is given back for a log file stands for the file that was opened. -/
theorem place_logPath {working : Location} (plain : ∀ name ∈ working, IsPlain name) (directory command runId : String) :
    place working ((logPath directory command runId).absolute working).render =
      place working (logPath directory command runId).render := by
  have ends := endsIn_logPath directory command runId
  have tidy : (logPath directory command runId).Tidy := (Path.tidy_parse directory).join _
  apply FileTree.place_absolute plain tidy
  · exact ne_nil_of_endsIn ends
  · exact ne_nil_of_endsIn (Path.endsIn_absolute (by decide) working ends)

@[simp] theorem opening?_concat (name : String) (calls : List Call) (call : Call) :
    opening? name (calls ++ [call]) = Opening.after name (opening? name calls) call := by
  simp [opening?]

theorem logged_concat (working location : Location) (earlier calls : List Call) (call : Call) :
    logged working location earlier (calls ++ [call]) =
      logged working location earlier calls ++ arriving working location (earlier ++ calls) call := by
  induction calls generalizing earlier with
  | nil => simp [logged]
  | cons first rest ih => simp [logged, ih]

/-- A channel is open as it was made: it keeps events to itself, and has its log file at the place of the path that was
given back. -/
inductive IsOpen (working : Location) (time : String) (journal : Journal) (name : String) : Opening → Prop
  | silent {level : Int} (found : journal.find? name = some ⟨name, level, [.nowhere]⟩) :
      IsOpen working time journal name ⟨level, none⟩
  | logging {level : Int} {path : String} {bytes : List UInt8}
      (keeps : Keeps name (place working path) level time journal bytes) :
      IsOpen working time journal name ⟨level, some path⟩

/-- What was open stays so while its channel is left alone and the files are still there. -/
theorem IsOpen.carry {working : Location} {time name : String} {journal after : Journal} {opening : Opening}
    (isOpen : IsOpen working time journal name opening) (same : after.find? name = journal.find? name)
    (timed : after.time = journal.time)
    (kept : ∀ location bytes, journal.files.find? location = some (.file bytes) →
      ∃ more, after.files.find? location = some (.file more)) :
    IsOpen working time after name opening := by
  cases isOpen with
  | silent found => exact .silent (same.trans found)
  | logging keeps =>
    obtain ⟨runId, found⟩ := keeps.channel
    obtain ⟨more, held⟩ := kept _ _ keeps.held
    exact .logging ⟨⟨runId, same.trans found⟩, held, timed.trans keeps.time⟩

section

variable {journal after : Journal} {command runId levelName : String} {directory logFile : Option String}
  (created : Created journal command runId levelName directory after logFile)

include created

theorem Created.find?_other {name : String} (other : name ≠ channelName command runId) :
    after.find? name = journal.find? name := by
  cases created with
  | silent | logged => exact (find?_put_other _ other).trans (find?_put_other _ other)

theorem Created.time : after.time = journal.time := by
  cases created with
  | silent | logged => rfl

/-- The files of a new channel are those that were there, with directories on the way to its log and the log itself. -/
theorem Created.files_cases :
    after.files = journal.files ∨
      ∃ way files location, Extends way journal.files files ∧ after.files = files.touch location := by
  cases created with
  | silent => exact .inl rfl
  | @logged level place files location known set made written =>
    have extended := FileTree.extends_makeDirectories journal.files (Path.parse place)
    rw [made] at extended
    exact .inr ⟨_, files, location, extended, rfl⟩

theorem Created.working : after.files.working = journal.files.working := by
  rcases created.files_cases with same | ⟨way, files, location, extended, opened⟩
  · rw [same]
  · rw [opened, FileTree.working_touch, extended.working]

theorem Created.bytesAt (location : Location) : after.files.bytesAt location = journal.files.bytesAt location := by
  rcases created.files_cases with same | ⟨way, files, log, extended, opened⟩
  · rw [same]
  · rw [opened, FileTree.bytesAt_touch, FileTree.bytesAt_of_extends extended]

theorem Created.held {location : Location} {entry : Entry} (found : journal.files.find? location = some entry) :
    after.files.find? location = some entry := by
  rcases created.files_cases with same | ⟨way, files, log, extended, opened⟩
  · rw [same, found]
  · rw [opened]
    exact FileTree.find?_touch log (FileTree.find?_of_extends extended found)

theorem Created.isOpen {level : Int} (known : Level.find levelName = .ok level)
    (plain : ∀ name ∈ journal.files.working, IsPlain name) :
    IsOpen journal.files.working journal.time after (channelName command runId) ⟨level, logFile⟩ := by
  cases created with
  | silent found =>
    obtain rfl := Except.ok.inj (known.symm.trans found)
    exact .silent (find?_put_self _ _)
  | @logged level' directory files location found set made written =>
    obtain rfl := Except.ok.inj (known.symm.trans found)
    obtain ⟨bytes, held⟩ := exists_held written
    have extended := FileTree.extends_makeDirectories journal.files (Path.parse directory)
    rw [made] at extended
    have here : location = place journal.files.working (logPath directory command runId).render := by
      rw [(FileTree.location_of_writable written).1, extended.working]
      exact place_logPath plain directory command runId
    apply IsOpen.logging
    rw [← here]
    exact keeps_withLog journal (channelName command runId) runId level held

end

/-- An event that is told through an open channel comes to its log file, if it has one, and shows nowhere else. -/
theorem IsOpen.emit {working : Location} {time name : String} {journal : Journal} {opening : Opening} {event : Event}
    (isOpen : IsOpen working time journal name opening) (whole : event.IsWhole) :
    (journal.emit name [event]).2 = "" ∧
      ∀ location, (journal.emit name [event]).1.files.bytesAt location = journal.files.bytesAt location ++
        Event.transcript time (if opening.admits working location event then [event] else []) := by
  cases isOpen with
  | @silent level found =>
    have unmoved : journal.emit name [event] = (journal, "") := by simp [Journal.emit, found, writeTo]
    rw [unmoved]
    refine ⟨rfl, ?_⟩
    intro location
    simp [Opening.admits, Event.transcript]
  | @logging level path bytes keeps =>
    have told := told_emit journal name [event]
    have alone : ∀ other ∈ [event], other.IsWhole := by simpa using whole
    have more := keeps.emit alone
    constructor
    · obtain ⟨runId, found⟩ := keeps.channel
      simp [Journal.emit, found]
    · intro location
      by_cases here : place working path = location
      · subst here
        rw [FileTree.bytesAt, FileTree.bytesAt, more.held, keeps.held]
        simp [Opening.admits, List.filter_cons]
      · rcases told.files.find location with same | ⟨member, -⟩
        · rw [FileTree.bytesAt, FileTree.bytesAt, same]
          simp [Opening.admits, here, Event.transcript]
        · rw [keeps.logs, List.mem_singleton] at member
          exact absurd member.symm here

@[simp] theorem time_close (journal : Journal) (name : String) : (journal.close name).time = journal.time := by
  unfold close
  split <;> rfl

theorem time_emit (journal : Journal) (name : String) (events : List Event) :
    (journal.emit name events).1.time = journal.time := by
  unfold emit
  split
  · rfl
  · simp only
    split <;> rfl

/-- What holds of a journal along a history. -/
structure Tracks (start : Journal) (calls : List Call) (journal : Journal) (console : String) : Prop where
  working : journal.files.working = start.files.working
  time : journal.time = start.time
  isOpen : ∀ name opening, opening? name calls = some opening →
    IsOpen start.files.working start.time journal name opening
  single : ∀ name channel, journal.find? name = some channel → channel.own.length ≤ 1
  quiet : console = ""
  logs : ∀ location, journal.files.bytesAt location = start.files.bytesAt location ++
    Event.transcript start.time (logged start.files.working location [] calls)

section

variable {start journal : Journal} {calls : List Call} {console : String} (tracks : Tracks start calls journal console)

include tracks

theorem Tracks.make {after : Journal} {command runId levelName : String} {directory logFile : Option String}
    {level : Int} (plain : ∀ name ∈ start.files.working, IsPlain name) (known : Level.find levelName = .ok level)
    (created : Created journal command runId levelName directory after logFile) :
    Tracks start (calls ++ [.made (channelName command runId) level logFile]) after console where
  working := created.working.trans tracks.working
  time := created.time.trans tracks.time
  isOpen := by
    intro name opening last
    rw [opening?_concat, Opening.after] at last
    split at last
    next same =>
      cases last
      rw [← same, ← tracks.working, ← tracks.time]
      exact created.isOpen known (tracks.working ▸ plain)
    next other =>
      apply (tracks.isOpen name opening last).carry (created.find?_other (Ne.symm other)) created.time
      intro location bytes found
      exact ⟨bytes, created.held found⟩
  single := by
    intro name channel found
    by_cases same : name = channelName command runId
    · obtain ⟨level, sink, kept, made⟩ := created.sink
      rw [same, made] at found
      cases found
      simp [Channel.own, kept]
    · rw [created.find?_other same] at found
      exact tracks.single name channel found
  quiet := tracks.quiet
  logs := by
    intro location
    rw [created.bytesAt, tracks.logs, logged_concat, arriving, List.append_nil]

theorem Tracks.close (closed : String) : Tracks start (calls ++ [.closed closed]) (journal.close closed) console where
  working := by rw [files_close, tracks.working]
  time := by rw [time_close, tracks.time]
  isOpen := by
    intro name opening last
    rw [opening?_concat, Opening.after] at last
    split at last
    next => cases last
    next other =>
      apply (tracks.isOpen name opening last).carry (journal.find?_close_other (Ne.symm other)) (time_close _ _)
      intro location bytes found
      exact ⟨bytes, by rw [files_close, found]⟩
  single := by
    intro name channel found
    by_cases same : name = closed
    · subst same
      simp [own_of_close found]
    · rw [journal.find?_close_other same] at found
      exact tracks.single name channel found
  quiet := tracks.quiet
  logs := by
    intro location
    rw [files_close, tracks.logs, logged_concat, arriving, List.append_nil]

theorem Tracks.tell {name : String} {opening : Opening} (last : opening? name calls = some opening) {event : Event}
    (whole : event.IsWhole) :
    Tracks start (calls ++ [.told name event]) (journal.emit name [event]).1
      (console ++ (journal.emit name [event]).2) := by
  have told := told_emit journal name [event]
  obtain ⟨quiet, added⟩ := (tracks.isOpen name opening last).emit whole
  have found (other : String) : (journal.emit name [event]).1.find? other = journal.find? other := by
    rw [find?, told.channels, find?]
  exact
    { working := told.files.working.trans tracks.working
      time := (time_emit journal name [event]).trans tracks.time
      isOpen := by
        intro other opening' last'
        rw [opening?_concat, Opening.after] at last'
        apply (tracks.isOpen other opening' last').carry (found other) (time_emit journal name [event])
        -- Two channels may share a log file, so of the other's log only that it is there is carried on.
        intro location bytes held
        rcases told.files.find location with same | ⟨-, old, new, -, after⟩
        · exact ⟨bytes, same.trans held⟩
        · exact ⟨new, after⟩
      single := by
        intro other channel held
        rw [found] at held
        exact tracks.single other channel held
      quiet := by rw [tracks.quiet, quiet]; rfl
      logs := by
        intro location
        rw [added, tracks.logs, logged_concat, List.nil_append, arriving, last]
        simp [Event.transcript] }

end

/-- A history keeps what holds at its start. -/
theorem History.tracks {start after : Journal} {calls : List Call} {console : String}
    (history : History start calls after console) (plain : ∀ name ∈ start.files.working, IsPlain name)
    (single : ∀ name channel, start.find? name = some channel → channel.own.length ≤ 1) :
    Tracks start calls after console := by
  induction history with
  | start =>
    refine ⟨rfl, rfl, ?_, single, rfl, ?_⟩
    · intro name opening last
      cases last
    · intro location
      simp [logged, Event.transcript]
  | make earlier known created ih => exact ih.make plain known (created_of_create created)
  | close earlier name ih => exact ih.close name
  | tell earlier isOpen level runId component message ih => exact ih.tell isOpen ⟨rfl, rfl⟩

end Journal

end Linewise
