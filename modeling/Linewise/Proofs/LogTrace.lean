import Linewise.Proofs.AcceptedLines
import Linewise.Proofs.Service

/-! The log of a pipeline is the trace of what it was asked for. Each answer has its records: the opening, one for each
line taken, and one for how it ended. The log has those of its level and above, in order, after what it held before. -/
namespace Linewise

namespace Event

/-- The records of events in a log. -/
def transcript (time : String) (events : List Event) : List UInt8 :=
  events.flatMap fun event => Text.Utf8.encode (event.render time).toList

/-- An event with all its fields. -/
def IsWhole (event : Event) : Prop := event.runId.isSome ∧ event.component.isSome

theorem complete_of_isWhole {event : Event} (whole : event.IsWhole) (runId component : String) :
    event.complete runId component = event := by
  obtain ⟨level, given, part, message⟩ := event
  obtain ⟨named, placed⟩ := whole
  obtain ⟨detail, rfl⟩ := Option.isSome_iff_exists.mp named
  obtain ⟨place, rfl⟩ := Option.isSome_iff_exists.mp placed
  rfl

/-- A log that was added to twice might have been added to once. -/
theorem append_transcript (bytes : List UInt8) (time : String) (level : Int) (early late : List Event) :
    bytes ++ transcript time (early.filter (level ≤ ·.level)) ++ transcript time (late.filter (level ≤ ·.level)) =
      bytes ++ transcript time ((early ++ late).filter (level ≤ ·.level)) := by
  simp [transcript, List.append_assoc]

end Event

namespace Journal

/-- The records that a log file gets are those of its level and above. -/
theorem records_eq_transcript (time runId : String) (level : Int) {events : List Event}
    (whole : ∀ event ∈ events, event.IsWhole) :
    records time level runId (events.filter (level ≤ ·.level)) =
      Event.transcript time (events.filter (level ≤ ·.level)) := by
  simp only [records, List.filter_filter, Bool.and_self, Event.transcript]
  apply List.flatMap_congr
  intro event member
  rw [Event.complete_of_isWhole (whole event (List.mem_of_mem_filter member))]

/-- A journal with one log file behind a channel, and what the file holds. -/
structure Keeps (name : String) (location : Location) (level : Int) (time : String) (journal : Journal)
    (bytes : List UInt8) : Prop where
  channel : ∃ runId, journal.find? name = some ⟨name, level, [.file location level runId]⟩
  held : journal.files.find? location = some (.file bytes)
  time : journal.time = time

section

variable {name : String} {location : Location} {level : Int} {time : String} {journal : Journal} {bytes : List UInt8}

theorem Keeps.logs (keeps : Keeps name location level time journal bytes) : journal.logs name = [location] := by
  obtain ⟨runId, found⟩ := keeps.channel
  simp [Journal.logs, found, Sink.log?]

/-- What is told is added to the log, less what is below its level. -/
theorem Keeps.emit (keeps : Keeps name location level time journal bytes) {events : List Event}
    (whole : ∀ event ∈ events, event.IsWhole) :
    Keeps name location level time (journal.emit name events).1
      (bytes ++ Event.transcript time (events.filter (level ≤ ·.level))) := by
  obtain ⟨runId, found⟩ := keeps.channel
  have inside : location ≠ [] := FileTree.ne_nil_of_find? keeps.held (by simp)
  have added : (journal.emit name events).1.files = journal.files.put location
      (.file (bytes ++ Event.transcript time (events.filter (level ≤ ·.level)))) := by
    rw [← records_eq_transcript time runId level whole, ← keeps.time]
    simp [Journal.emit, found, writeTo, FileTree.append, keeps.held]
  have timed : (journal.emit name events).1.time = journal.time := by simp [Journal.emit, found]
  refine ⟨⟨runId, ?_⟩, ?_, timed.trans keeps.time⟩
  · simpa only [find?, (told_emit journal name events).channels] using found
  · rw [added]
    exact FileTree.find?_put_self _ _ _ inside

end

/-- A journal with a new log file behind a channel. -/
def withLog (journal : Journal) (name runId : String) (level : Int) (files : FileTree) (location : Location) : Journal :=
  { journal.put ⟨name, level, []⟩ with files := files.touch location }.put ⟨name, level, [.file location level runId]⟩

theorem keeps_withLog (journal : Journal) (name runId : String) (level : Int) {files : FileTree} {location : Location}
    {bytes : List UInt8} (held : (files.touch location).find? location = some (.file bytes)) :
    Keeps name location level journal.time (journal.withLog name runId level files location) bytes where
  channel := ⟨runId, find?_putChannel ⟨name, level, [.file location level runId]⟩ _⟩
  held := held
  time := rfl

/-- A log file that can be written is there once it is opened. -/
theorem exists_held {files : FileTree} {path : String} {location : Location}
    (written : files.writable path = .ok location) :
    ∃ bytes, (files.touch location).find? location = some (.file bytes) := by
  obtain ⟨-, plain⟩ := FileTree.location_of_writable written
  cases found : files.find? location with
  | none =>
    refine ⟨[], ?_⟩
    simp only [FileTree.touch, found, Option.isSome_none]
    exact FileTree.find?_put_self _ _ _ (FileTree.ne_nil_of_find? found (by simp))
  | some entry =>
    cases entry with
    | file bytes => exact ⟨bytes, by simp [FileTree.touch, found]⟩
    | directory => exact absurd found plain

/-- What it takes to make a log file. -/
theorem exists_withLog {journal opened : Journal} {command runId name directory logFile : String}
    (created : journal.create command (some directory) runId name = (opened, .ok (some logFile))) :
    ∃ level files location, Level.find name = .ok level ∧ directory ≠ "" ∧
      journal.files.makeDirectories (Path.parse directory) = (files, none) ∧
      files.writable ((logPath directory command runId).absolute files.working).render = .ok location ∧
      opened = journal.withLog (channelName command runId) runId level files location := by
  cases created_of_create created with
  | logged known set made written =>
    obtain ⟨given, filled⟩ := set
    cases given
    exact ⟨_, _, _, known, filled, made, written, rfl⟩

theorem create_of_written {journal : Journal} {command runId name directory : String} {level : Int} {files : FileTree}
    {location : Location} (known : Level.find name = .ok level) (filled : directory ≠ "")
    (made : journal.files.makeDirectories (Path.parse directory) = (files, none))
    (written : files.writable ((logPath directory command runId).absolute files.working).render = .ok location) :
    (journal.create command (some directory) runId name).1 =
      journal.withLog (channelName command runId) runId level files location := by
  have opened : openLog files (logPath directory command runId) = .ok (files.touch location, location) := by
    rw [openLog, written]
    rfl
  have kept : (journal.put ⟨channelName command runId, level, []⟩).files = journal.files := rfl
  unfold create
  rw [known]
  simp only [kept, made, opened]
  rfl

end Journal

namespace Pipeline

open Journal (Keeps Told)

/-- The values that an answer gives, or the fault that was met. -/
def Answer.result : Answer → Except Fault (List Value)
  | .ran run => run.outcome.bind Outcome.toExcept
  | .collected gathering => gathering.result

/-- The record of how a request ended. A run tells of a failure; values that were asked for do not, nor does a fault
that no stage accounts for. -/
def closing (pipeline : Pipeline) (count : Nat) : Answer → List Event
  | .ran run =>
    match run.outcome.map Outcome.toExcept with
    | .ok (.ok _) => [pipeline.exhausted count]
    | .ok (.error fault) => ((Failure.ofFault? fault).map pipeline.aborted).toList
    | .error _ => []
  | .collected gathering =>
    match gathering.result with
    | .ok _ => [pipeline.exhausted count]
    | .error _ => []

/-- All the records of a request. -/
def trace (pipeline : Pipeline) (files : FileTree) (request : Request) (answer : Answer) : List Event :=
  let count := pipeline.reach files request.path
  pipeline.opening request.path :: (List.range count).map (fun i => pipeline.accepted (i + 1)) ++
    pipeline.closing count answer

/-- One pipeline answers all the requests. -/
def answerAll (pipeline : Pipeline) (journal : Journal) (requests : List Request) : Journal × List Answer :=
  Journal.through pipeline.answer 0 journal requests

theorem result_toAnswer (occasion : Nat) (gathering : Gathering) (request : Request) :
    (gathering.toAnswer occasion request).result = gathering.result := by
  have ran : (gathering.toRun occasion).outcome.bind Outcome.toExcept = gathering.result := by
    simp only [Gathering.toRun]
    split
    · rename_i values collected
      rw [collected]
      rfl
    · rename_i fault stopped
      rw [stopped]
      split <;> rfl
  cases request with
  | run path | runAnew path => exact ran
  | collect path => rfl

/-- Whatever a pipeline tells has all its fields. -/
theorem isWhole_event (pipeline : Pipeline) (level : Int) (message : String) :
    ∀ event ∈ [pipeline.event level message], event.IsWhole := by
  intro event member
  rw [List.mem_singleton.mp member]
  exact ⟨rfl, rfl⟩

theorem isWhole_progress (pipeline : Pipeline) (gathering : Gathering) :
    ∀ event ∈ pipeline.progress gathering, event.IsWhole := by
  intro event member
  rcases List.mem_append.mp member with line | last
  · obtain ⟨i, -, rfl⟩ := List.mem_map.mp line
    exact isWhole_event pipeline _ _ _ (List.mem_singleton_self _)
  · split at last
    · exact isWhole_event pipeline _ _ event last
    · cases last

/-- What a run adds to the records of its gathering. -/
def aborts (pipeline : Pipeline) (gathering : Gathering) : List Event :=
  match gathering.result with
  | .ok _ => []
  | .error fault => ((Failure.ofFault? fault).map pipeline.aborted).toList

section

variable {pipeline : Pipeline} {files : FileTree} {path : String} (fresh : pipeline.opener.OpensFresh)

include fresh

/-- The count that is told at the end is that of the lines taken. -/
theorem progress_gather :
    pipeline.progress (pipeline.gather files path) =
      (List.range (pipeline.reach files path)).map (fun i => pipeline.accepted (i + 1)) ++
        pipeline.closing (pipeline.reach files path) (.collected (pipeline.gather files path)) := by
  obtain ⟨counted, ended⟩ := ended_gather fresh files path
  simp only [progress, closing, counted]
  cases result : (pipeline.gather files path).result with
  | error fault => rfl
  | ok values =>
    rw [result] at ended
    simp only [ended.length_eq]

theorem trace_collected :
    pipeline.trace files (.collect path) (.collected (pipeline.gather files path)) =
      pipeline.opening path :: pipeline.progress (pipeline.gather files path) := by
  rw [progress_gather fresh]
  rfl

/-- A run has the records of its gathering, and one more if it failed. -/
theorem trace_ran (occasion : Nat) {request : Request} (asked : request.path = path) :
    pipeline.trace files request (.ran ((pipeline.gather files path).toRun occasion)) =
      (pipeline.opening path :: pipeline.progress (pipeline.gather files path)) ++
        pipeline.aborts (pipeline.gather files path) := by
  rw [progress_gather fresh, trace, asked]
  cases result : (pipeline.gather files path).result with
  | ok values => simp [closing, aborts, Gathering.toRun, result, Except.map, Outcome.toExcept, Outcome.ofValues]
  | error fault =>
    cases known : Failure.ofFault? fault with
    | none => simp [closing, aborts, Gathering.toRun, result, known, Except.map]
    | some failure =>
      simp [closing, aborts, Gathering.toRun, result, known, Except.map, Outcome.toExcept, Outcome.ofFailure]

end

section

variable {pipeline : Pipeline} {name : String} {location : Location} {level : Int} {time : String} {journal : Journal}
  {bytes : List UInt8} (channel : pipeline.channel = some name)
  (keeps : Keeps name location level time journal bytes)

include channel keeps

theorem keeps_tell {events : List Event} (whole : ∀ event ∈ events, event.IsWhole) :
    Keeps name location level time (pipeline.tell journal events)
      (bytes ++ Event.transcript time (events.filter (level ≤ ·.level))) := by
  simp only [tell, channel]
  exact keeps.emit whole

theorem keeps_gatherTold (path : String) :
    Keeps name location level time (pipeline.gatherTold journal path).1
      (bytes ++ Event.transcript time
        ((pipeline.opening path :: pipeline.progress (pipeline.gatherTold journal path).2).filter (level ≤ ·.level))) := by
  have first : Keeps name location level time (pipeline.tell journal [pipeline.opening path]) _ :=
    keeps_tell channel keeps (isWhole_event pipeline _ _)
  have both := keeps_tell channel first (isWhole_progress pipeline (pipeline.gatherTold journal path).2)
  rw [Event.append_transcript] at both
  exact both

theorem keeps_run (occasion : Nat) (path : String) :
    Keeps name location level time (pipeline.run journal occasion path).1
      (bytes ++ Event.transcript time
        (((pipeline.opening path :: pipeline.progress (pipeline.gatherTold journal path).2) ++
          pipeline.aborts (pipeline.gatherTold journal path).2).filter (level ≤ ·.level))) := by
  have gathered := keeps_gatherTold channel keeps path
  simp only [run, aborts]
  cases result : (pipeline.gatherTold journal path).2.result with
  | ok values => simpa using gathered
  | error fault =>
    cases known : Failure.ofFault? fault with
    | none => simpa [known] using gathered
    | some failure =>
      have both : Keeps name location level time (pipeline.tell _ [pipeline.aborted failure]) _ :=
        keeps_tell channel gathered (isWhole_event pipeline _ _)
      rw [Event.append_transcript] at both
      simpa only [known, Option.map_some, Option.toList_some] using both

/-- One request adds its trace to the log, whose lines are counted in the files as they are read. -/
theorem keeps_answer (fresh : pipeline.opener.OpensFresh) {files : FileTree} (occasion : Nat) {request : Request}
    (same : (pipeline.gatherTold journal request.path).2 = pipeline.gather files request.path) :
    Keeps name location level time (pipeline.answer journal occasion request).1
      (bytes ++ Event.transcript time
        ((pipeline.trace files request (pipeline.answer journal occasion request).2).filter (level ≤ ·.level))) := by
  rw [answer_eq_toAnswer, same]
  cases request with
  | run path | runAnew path =>
    simp only [answer, anew_eq, Gathering.toAnswer]
    rw [trace_ran fresh occasion rfl, ← same]
    exact keeps_run channel keeps occasion path
  | collect path =>
    simp only [Request.path] at same
    simp only [Gathering.toAnswer, Request.path]
    rw [trace_collected fresh, ← same]
    exact keeps_gatherTold channel keeps path

end

/-- A stricter level keeps what it would have kept of everything. -/
theorem filter_stricter {loose strict : Int} (le : loose ≤ strict) (events : List Event) :
    (events.filter (loose ≤ ·.level)).filter (strict ≤ ·.level) = events.filter (strict ≤ ·.level) := by
  rw [List.filter_filter]
  apply List.filter_congr
  intro event _
  by_cases high : strict ≤ event.level
  · simp [high, Int.le_trans le high]
  · simp [high]

section

variable {pipeline : Pipeline} {name : String} {location : Location} {level : Int} {time : String} {start : Journal}
  (channel : pipeline.channel = some name) (isLocal : pipeline.opener.IsLocal)

include channel isLocal

/-- While the log grows, every other file is gathered from as at the start. -/
theorem gather_of_told {journal : Journal} {path : String} (told : Told name start journal)
    (spares : pipeline.Spares start path) : pipeline.gather journal.files path = pipeline.gather start.files path :=
  gather_of_read_eq isLocal (told.files.read (spares.sparesLog name channel))

theorem answer_of_told {journal : Journal} (occasion : Nat) {request : Request} (told : Told name start journal)
    (spares : pipeline.Spares start request.path) :
    (pipeline.answer journal occasion request).2 = pipeline.answerAlone start.files occasion request := by
  rw [answer_of_spares isLocal occasion (spares.continues told.continues), answerAlone_eq, answerAlone_eq,
    gather_of_told channel isLocal told spares]

/-- The answers to all the requests, and the log after them. -/
theorem through_answers (fresh : pipeline.opener.OpensFresh) (requests : List Request) (position : Nat)
    {journal : Journal} {bytes : List UInt8} (told : Told name start journal)
    (keeps : Keeps name location level time journal bytes)
    (spared : ∀ request ∈ requests, pipeline.Spares start request.path) :
    (Journal.through pipeline.answer position journal requests).2 =
        (requests.zipIdx position).map (fun entry => pipeline.answerAlone start.files entry.2 entry.1) ∧
      Keeps name location level time (Journal.through pipeline.answer position journal requests).1
        (bytes ++ Event.transcript time
          ((List.zipWith (pipeline.trace start.files) requests
            (Journal.through pipeline.answer position journal requests).2).flatten.filter (level ≤ ·.level))) := by
  induction requests generalizing position journal bytes with
  | nil => simpa [Journal.through, Event.transcript] using keeps
  | cons request rest ih =>
    -- The log has grown since the start, and no request is for it: each is answered over the files of the start.
    have spares := spared request (by simp)
    have answered := answer_of_told channel isLocal position told spares
    have same : (pipeline.gatherTold journal request.path).2 = pipeline.gather start.files request.path :=
      (gatherTold_of_spares isLocal (spares.continues told.continues)).trans
        (gather_of_told channel isLocal told spares)
    have added := keeps_answer channel keeps fresh position same
    obtain ⟨later, log⟩ := ih (position + 1) (told.trans (told_answer channel journal position request)) added
      (fun other member => spared other (by simp [member]))
    rw [Event.append_transcript] at log
    refine ⟨?_, log⟩
    simp only [Journal.through, List.zipIdx_cons, List.map_cons, later, answered]

end

theorem ended_alone {pipeline : Pipeline} (fresh : pipeline.opener.OpensFresh) (files : FileTree)
    (requests : List Request) (position : Nat) :
    List.Forall₂
      (fun request answer => pipeline.Ended files request.path (pipeline.reach files request.path) answer.result) requests
      ((requests.zipIdx position).map fun entry => pipeline.answerAlone files entry.2 entry.1) := by
  induction requests generalizing position with
  | nil => exact .nil
  | cons request rest ih =>
    refine .cons ?_ (ih (position + 1))
    simp only [answerAlone_eq, result_toAnswer]
    exact (ended_gather fresh files request.path).2

section

variable {pipeline : Pipeline} {name : String} {files : FileTree} {location : Location} {bytes : List UInt8}
  (journal : Journal) (requests : List Request) (channel : pipeline.channel = some name)
  (isLocal : pipeline.opener.IsLocal) (fresh : pipeline.opener.OpensFresh)
  (held : (files.touch location).find? location = some (.file bytes))

include channel isLocal fresh held

/-- The answers of a pipeline with a new log, and the log after them. -/
theorem answerAll_withLog (runId : String) (level : Int)
    (apart : ∀ request ∈ requests, FileTree.place (files.touch location).working request.path ≠ location) :
    let served := pipeline.answerAll (journal.withLog name runId level files location) requests
    served.2 = requests.zipIdx.map (fun entry => pipeline.answerAlone (files.touch location) entry.2 entry.1) ∧
      served.1.files.find? location = some (.file (bytes ++ Event.transcript journal.time
        ((List.zipWith (pipeline.trace (files.touch location)) requests served.2).flatten.filter (level ≤ ·.level)))) := by
  have keeps := Journal.keeps_withLog journal name runId level held
  have spared : ∀ request ∈ requests,
      pipeline.Spares (journal.withLog name runId level files location) request.path := by
    intro request member other given
    obtain rfl : name = other := Option.some.inj (channel.symm.trans given)
    rw [keeps.logs, List.mem_singleton]
    exact apart request member
  obtain ⟨answers, log⟩ := through_answers channel isLocal fresh requests 0 (.refl name _) keeps spared
  exact ⟨answers, log.held⟩

end

end Pipeline

end Linewise
