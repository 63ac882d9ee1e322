import Linewise.Proofs.Decoding
import Linewise.Proofs.Logging

/-! One pipeline that is asked again and again while files come and go, and tells its log about it. Every answer is that
of a new pipeline without a log over the files as they stand: nothing is carried over, and the log is not read. -/
namespace Linewise

namespace FileTree

/-- Writes a file, over the one that was there. The directories above it are made. -/
def write (tree : FileTree) (path : String) (bytes : List UInt8) : FileTree :=
  let names := Path.parse path
  let tree := (tree.makeDirectories ⟨names.root, names.names.dropLast⟩).1
  match tree.writable path with
  | .ok location => tree.put location (.file bytes)
  | .error _ => tree

def remove (tree : FileTree) (path : String) : FileTree :=
  match tree.resolve path with
  | .ok (.entry location (.file _)) => tree.erase location
  | _ => tree

@[simp] theorem working_write (tree : FileTree) (path : String) (bytes : List UInt8) :
    (tree.write path bytes).working = tree.working := by
  have made := (extends_makeDirectories tree ⟨(Path.parse path).root, (Path.parse path).names.dropLast⟩).working
  simp only [write]
  split
  · simpa only [put] using made
  · exact made

@[simp] theorem working_remove (tree : FileTree) (path : String) : (tree.remove path).working = tree.working := by
  unfold remove
  split <;> rfl

end FileTree

/-- An opener that goes by what is read at the path, and by nothing else of the files. -/
def Opener.IsLocal (opener : Opener) : Prop :=
  ∀ (files other : FileTree) (path encoding : String), files.read path = other.read path →
    opener files path encoding = opener other path encoding

theorem LineReader.openFile_isLocal : Opener.IsLocal openFile := by
  intro files other path encoding same
  simp only [openFile, same]

namespace Journal

/-- Takes steps one after another, each with its position, and keeps the answers. -/
def through (act : Journal → Nat → σ → Journal × α) : (position : Nat) → Journal → List σ → Journal × List α
  | _, journal, [] => (journal, [])
  | position, journal, step :: rest =>
    let (journal, answer) := act journal position step
    let (journal, answers) := through act (position + 1) journal rest
    (journal, answer :: answers)

section

variable (act : Journal → Nat → σ → Journal × α)

/-- Each answer is given where the steps before it have led. -/
theorem getElem?_through (steps : List σ) (position : Nat) (journal : Journal) (i : Nat) :
    (through act position journal steps).2[i]? =
      steps[i]?.map fun step => (act (through act position journal (steps.take i)).1 (position + i) step).2 := by
  induction steps generalizing position journal i with
  | nil => simp [through]
  | cons step rest ih =>
    cases i with
    | zero => simp [through]
    | succ i =>
      have later := ih (position + 1) (act journal position step).1 i
      simpa [through, Nat.add_assoc, Nat.add_comm 1 i] using later

/-- What every step keeps, all of them keep. -/
theorem through_keeps {kept : Journal → Prop} (keeps : ∀ journal position step, kept journal →
    kept (act journal position step).1) (steps : List σ) (position : Nat) {journal : Journal} (start : kept journal) :
    kept (through act position journal steps).1 := by
  induction steps generalizing position journal with
  | nil => exact start
  | cons step rest ih => exact ih (position + 1) (keeps journal position step start)

end

/-- A journal with the channels and the working directory of another. -/
structure Continues (start journal : Journal) : Prop where
  channels : journal.channels = start.channels
  working : journal.files.working = start.files.working

section

variable {start between journal : Journal}

theorem Continues.refl (journal : Journal) : Continues journal journal := ⟨rfl, rfl⟩

theorem Continues.trans (first : Continues start between) (second : Continues between journal) :
    Continues start journal :=
  ⟨second.channels.trans first.channels, second.working.trans first.working⟩

theorem Continues.logs (continues : Continues start journal) (name : String) : journal.logs name = start.logs name :=
  logs_congr continues.channels name

theorem Told.continues {name : String} (told : Told name start journal) : Continues start journal :=
  ⟨told.channels, told.files.working⟩

end

end Journal

namespace Pipeline

open Journal (Continues Told)

/-- A request: a run, a run of a pipeline newly made from the same parts, or the values of a file. -/
inductive Request
  | run (path : String)
  | runAnew (path : String)
  | collect (path : String)

def Request.path : Request → String
  | run path | runAnew path | collect path => path

inductive Answer
  | ran (run : Run)
  | collected (gathering : Gathering)

/-- A new pipeline with the parts of another. -/
def anew (pipeline : Pipeline) : Pipeline where
  transform := pipeline.transform
  encoding := pipeline.encoding
  runId := pipeline.runId
  channel := pipeline.channel
  opener := pipeline.opener

/-- A new pipeline that tells nobody. -/
def silent (pipeline : Pipeline) : Pipeline where
  transform := pipeline.transform
  encoding := pipeline.encoding
  runId := "-"
  channel := none
  opener := pipeline.opener

theorem anew_eq (pipeline : Pipeline) : pipeline.anew = pipeline := rfl

def answer (pipeline : Pipeline) (journal : Journal) (occasion : Nat) : Request → Journal × Answer
  | .run path =>
    let (journal, run) := pipeline.run journal occasion path
    (journal, .ran run)
  | .runAnew path =>
    let (journal, run) := pipeline.anew.run journal occasion path
    (journal, .ran run)
  | .collect path =>
    let (journal, gathering) := pipeline.gatherTold journal path
    (journal, .collected gathering)

/-- What can happen to a pipeline and to the files it reads. -/
inductive Step
  | request (request : Request)
  | write (path : String) (bytes : List UInt8)
  | remove (path : String)

def step (pipeline : Pipeline) (journal : Journal) (occasion : Nat) : Step → Journal × Option Answer
  | .request request =>
    let (journal, answer) := pipeline.answer journal occasion request
    (journal, some answer)
  | .write path bytes => ({ journal with files := journal.files.write path bytes }, none)
  | .remove path => ({ journal with files := journal.files.remove path }, none)

/-- One pipeline takes all the steps. -/
def serve (pipeline : Pipeline) (journal : Journal) (steps : List Step) : Journal × List (Option Answer) :=
  Journal.through pipeline.step 0 journal steps

/-- What a new pipeline without a log answers over these files. -/
def answerAlone (pipeline : Pipeline) (files : FileTree) (occasion : Nat) (request : Request) : Answer :=
  (pipeline.silent.answer ⟨files, [], ""⟩ occasion request).2

/-- A path does not stand for a log file that the pipeline writes to. -/
def Spares (pipeline : Pipeline) (journal : Journal) (path : String) : Prop :=
  ∀ name, pipeline.channel = some name → FileTree.place journal.files.working path ∉ journal.logs name

theorem Spares.sparesLog {pipeline : Pipeline} {journal : Journal} {path : String}
    (spares : pipeline.Spares journal path) : pipeline.SparesLog journal path := by
  intro name channel location member entry resolved
  have here : location = FileTree.place journal.files.working path := FileTree.location_of_resolve resolved
  exact spares name channel (here ▸ member)

theorem Spares.continues {pipeline : Pipeline} {start journal : Journal} {path : String}
    (spares : pipeline.Spares start path) (continues : Continues start journal) : pipeline.Spares journal path := by
  intro name channel
  rw [continues.working, continues.logs]
  exact spares name channel

/-- A run is made of a gathering. -/
def Gathering.toRun (occasion : Nat) (gathering : Gathering) : Run where
  outcome :=
    match gathering.result with
    | .ok values => .ok (.ofValues values)
    | .error fault =>
      if (Failure.ofFault? fault).isSome then .ok (.ofFailure ⟨occasion, fault⟩) else .error fault
  source := gathering.source

/-- What a gathering is to the one who asked for it. -/
def Gathering.toAnswer (occasion : Nat) (gathering : Gathering) : Request → Answer
  | .run _ | .runAnew _ => .ran (gathering.toRun occasion)
  | .collect _ => .collected gathering

section

variable (pipeline : Pipeline) (journal : Journal) (occasion : Nat)

theorem run_eq_toRun (path : String) :
    (pipeline.run journal occasion path).2 = (pipeline.gatherTold journal path).2.toRun occasion := by
  simp only [run, Gathering.toRun]
  cases result : (pipeline.gatherTold journal path).2.result with
  | ok values => rfl
  | error fault =>
    cases known : Failure.ofFault? fault with
    | none => simp [known]
    | some failure => simp [known]

theorem answer_eq_toAnswer (request : Request) :
    (pipeline.answer journal occasion request).2 =
      (pipeline.gatherTold journal request.path).2.toAnswer occasion request := by
  cases request with
  | run path | runAnew path =>
    simp only [answer, anew_eq, Gathering.toAnswer]
    exact congrArg Answer.ran (run_eq_toRun pipeline journal occasion path)
  | collect path => rfl

theorem tell_silent (events : List Event) : pipeline.silent.tell journal events = journal := rfl

/-- A new pipeline without a log answers with what there is to gather. -/
theorem answerAlone_eq (files : FileTree) (request : Request) :
    pipeline.answerAlone files occasion request =
      (pipeline.gather files request.path).toAnswer occasion request := by
  rw [answerAlone, answer_eq_toAnswer]
  simp only [gatherTold, tell_silent]
  rfl

end

section

variable {pipeline : Pipeline} {journal : Journal} (isLocal : pipeline.opener.IsLocal)

include isLocal

theorem gather_of_read_eq {files other : FileTree} {path : String} (same : files.read path = other.read path) :
    pipeline.gather files path = pipeline.gather other path := by
  simp only [gather, isLocal files other path pipeline.encoding same]

/-- What is told about the opening goes to the log, and the file is read as it was. -/
theorem gatherTold_of_spares {path : String} (spares : pipeline.Spares journal path) :
    (pipeline.gatherTold journal path).2 = pipeline.gather journal.files path :=
  gather_of_read_eq isLocal (spares.sparesLog.read_tell [pipeline.opening path])

theorem answer_of_spares (occasion : Nat) {request : Request} (spares : pipeline.Spares journal request.path) :
    (pipeline.answer journal occasion request).2 = pipeline.answerAlone journal.files occasion request := by
  rw [answer_eq_toAnswer, answerAlone_eq, gatherTold_of_spares isLocal spares]

end

theorem told_answer {pipeline : Pipeline} {name : String} (channel : pipeline.channel = some name) (journal : Journal)
    (occasion : Nat) (request : Request) : Told name journal (pipeline.answer journal occasion request).1 := by
  cases request with
  | run path | runAnew path => exact told_run pipeline channel journal occasion path
  | collect path => exact told_gatherTold pipeline channel journal path

theorem continues_answer (pipeline : Pipeline) (journal : Journal) (occasion : Nat) (request : Request) :
    Continues journal (pipeline.answer journal occasion request).1 := by
  cases channel : pipeline.channel with
  | some name => exact (told_answer channel journal occasion request).continues
  | none =>
    have unchanged (path : String) : (pipeline.run journal occasion path).1 = journal := by
      simp only [run, gatherTold, tell, channel]
      split
      · rfl
      · split <;> rfl
    cases request with
    | run path | runAnew path =>
      simp only [answer, anew_eq, unchanged]
      exact .refl journal
    | collect path =>
      simp only [answer, gatherTold, tell, channel]
      exact .refl journal

theorem continues_step (pipeline : Pipeline) (journal : Journal) (occasion : Nat) (step : Step) :
    Continues journal (pipeline.step journal occasion step).1 := by
  cases step with
  | request request => exact continues_answer pipeline journal occasion request
  | write path bytes => exact ⟨rfl, FileTree.working_write journal.files path bytes⟩
  | remove path => exact ⟨rfl, FileTree.working_remove journal.files path⟩

theorem continues_serve (pipeline : Pipeline) (journal : Journal) (steps : List Step) :
    Continues journal (pipeline.serve journal steps).1 :=
  Journal.through_keeps pipeline.step
    (fun journal occasion step continues => continues.trans (continues_step pipeline journal occasion step))
    steps 0 (.refl journal)

/-- Whatever the journal, the channel and the steps before, an answer is that of a new pipeline without a log over the
files as they stand, so long as no request is for the log itself. -/
theorem serve_answers_as_alone (pipeline : Pipeline) (journal : Journal) (steps : List Step)
    (isLocal : pipeline.opener.IsLocal)
    (spared : ∀ request, .request request ∈ steps → pipeline.Spares journal request.path) (i : Nat) (request : Request)
    (asked : steps[i]? = some (.request request)) :
    (pipeline.serve journal steps).2[i]? =
      some (some (pipeline.answerAlone (pipeline.serve journal (steps.take i)).1.files i request)) := by
  -- The steps before may have done anything to the files; the channels and the working directory are the same.
  have spares : pipeline.Spares (pipeline.serve journal (steps.take i)).1 request.path :=
    (spared request (List.mem_of_getElem? asked)).continues (continues_serve pipeline journal (steps.take i))
  have alone := answer_of_spares isLocal i spares
  rw [serve, Journal.getElem?_through, asked, Nat.zero_add]
  simp only [Option.map_some, step]
  exact congrArg (some ∘ some) alone

/-- A line without a value, then another in its place: the second request knows nothing of the first, and both are in
the log. -/
theorem serve_answers_as_alone_replaced :
    let journal : Journal := ⟨⟨[(["l"], .file [])], []⟩, [⟨"c", 10, [.file ["l"] 10 "-"]⟩], "now"⟩
    let pipeline : Pipeline := ⟨some (.integer .u64 true), "utf-8", "-", some "c", LineReader.openFile⟩
    let steps : List Step :=
      [.write "f" [0x78], .request (.run "f"), .write "f" [0x37, 0x0A], .request (.collect "f")]
    pipeline.opener.IsLocal ∧ pipeline.Spares journal "f" ∧
      (pipeline.serve journal (steps.take 3)).1.files.bytesAt ["l"] ≠ [] ∧
      ∃ gathering, (pipeline.serve journal steps).2[3]? = some (some (.collected gathering)) ∧
        gathering.result = .ok [.int 7] := by
  intro journal pipeline steps
  have spares : pipeline.Spares journal "f" := by
    intro name given
    obtain rfl : "c" = name := Option.some.inj given
    decide +kernel
  have spared : ∀ request, .request request ∈ steps → pipeline.Spares journal request.path := by
    intro request member
    obtain rfl | rfl : request = .run "f" ∨ request = .collect "f" := by simpa [steps] using member
    · exact spares
    · exact spares
  have answered := serve_answers_as_alone pipeline journal steps LineReader.openFile_isLocal spared 3 (.collect "f") rfl
  rw [answerAlone_eq, Gathering.toAnswer, Request.path] at answered
  have told : (pipeline.serve journal (steps.take 3)).1.files.bytesAt ["l"] ≠ [] := by decide +kernel
  have result : (pipeline.gather (pipeline.serve journal (steps.take 3)).1.files "f").result = .ok [.int 7] :=
    eq_ok_of_toOption (by decide +kernel)
  exact ⟨LineReader.openFile_isLocal, spares, told, _, answered, result⟩

end Pipeline

end Linewise
