import Linewise.LineStream
import Linewise.Proofs.RunCourse

/-! Three ways to the lines of a file: a stream that opens it at the first call and reads it in blocks, the listing of a
source, and a pipeline without a transform. They give the same lines, and stop at the same place with the same fault
if they stop short of the end. -/
namespace Linewise

open LineReader (Reply Sound)

/-- Asking for lines until there is no further one: the lines that come, and what is raised if it is not the end. -/
inductive Delivers {σ : Type} (next : σ → Reply × σ) : σ → List String → Option Fault → Prop
  | ended {state later : σ} (answered : next state = (.ended, later)) : Delivers next state [] none
  | raised {state later : σ} {reply : Reply} {fault : Fault} (answered : next state = (reply, later))
      (raised : reply.raised? = some fault) : Delivers next state [] (some fault)
  | line {state later : σ} {text : String} {lines : List String} {stop : Option Fault}
      (answered : next state = (.line text, later)) (rest : Delivers next later lines stop) :
      Delivers next state (text :: lines) stop

/-- Two that answer alike as long as they give lines deliver the same. -/
theorem Delivers.transfer {σ τ : Type} {next : σ → Reply × σ} {other : τ → Reply × τ} {related : σ → τ → Prop}
    (step : ∀ state twin, related state twin → (other twin).1 = (next state).1 ∧
      ∀ text, (next state).1 = .line text → related (next state).2 (other twin).2)
    {state : σ} {twin : τ} {lines : List String} {stop : Option Fault} (delivers : Delivers next state lines stop)
    (start : related state twin) : Delivers other twin lines stop := by
  induction delivers generalizing twin with
  | ended answered =>
    have same := (step _ _ start).1
    rw [answered] at same
    exact .ended (Prod.ext same rfl)
  | raised answered raised =>
    have same := (step _ _ start).1
    rw [answered] at same
    exact .raised (Prod.ext same rfl) raised
  | line answered rest ih =>
    obtain ⟨same, after⟩ := step _ _ start
    rw [answered] at same after
    exact .line (Prod.ext same rfl) (ih (after _ rfl))

namespace LineReader

variable {source : LineReader}

/-- With one call more than the handle has answers, a listing is complete. -/
theorem delivers_listFrom {fuel : Nat} (sound : Sound source) (enough : source.handle.script.length < fuel) :
    Delivers next source (listFrom fuel source).lines (listFrom fuel source).stop := by
  induction fuel generalizing source with
  | zero => exact absurd enough (Nat.not_lt_zero _)
  | succ fuel ih =>
    cases answered : source.next with
    | mk reply later =>
      cases reply with
      | line text =>
        have fewer := script_of_line sound answered
        simp only [listFrom, answered]
        exact .line answered (ih (sound_of_next sound answered) (by omega))
      | ended =>
        simp only [listFrom, answered]
        exact .ended answered
      | failed breakdown | fault fault =>
        simp only [listFrom, answered]
        exact .raised answered rfl

theorem delivers_list (sound : Sound source) : Delivers next source source.list.lines source.list.stop :=
  delivers_listFrom sound (Nat.lt_succ_self _)

theorem length_le_of_delivers {lines : List String} {stop : Option Fault} (delivers : Delivers next source lines stop)
    (sound : Sound source) : lines.length ≤ source.handle.script.length := by
  induction delivers with
  | ended _ | raised _ _ => exact Nat.zero_le _
  | line answered rest ih =>
    have fewer := script_of_line sound answered
    have fits := ih (sound_of_next sound answered)
    rw [List.length_cons]
    omega

theorem receive_of_line {raw : List UInt8} {text : String} (given : (source.receive raw).1 = .line text) :
    raw ≠ [] ∧ (source.receive raw).2 = { source with line := source.line + 1 } := by
  unfold receive at given ⊢
  split at given
  · cases given
  · rename_i filled
    rw [if_neg filled]
    refine ⟨filled, ?_⟩
    simp only at given ⊢
    split at given
    · rfl
    · split at given <;> cases given

/-- The answer to bytes does not depend on the handle they came from. -/
theorem receive_with_handle (source : LineReader) (handle : Handle) (raw : List UInt8) :
    ({ source with handle }.receive raw).1 = (source.receive raw).1 := by
  unfold receive
  split
  · rfl
  · simp only
    split
    · rfl
    · split <;> rfl

end LineReader

theorem Handle.length_chunks_le (bytes : List UInt8) : (chunks bytes).length ≤ bytes.length := by
  induction bytes with
  | nil => exact Nat.le_refl _
  | cons b rest ih =>
    rw [chunks]
    split
    · simpa using ih
    · split
      · simp
      · rename_i cut
        rw [cut] at ih
        simpa using Nat.le_succ_of_le ih

namespace LineStream

/-- A stream in step with a source: what its window has ahead is what the handle of the source has yet to give. -/
structure Follows (tree : FileTree) (content : List UInt8) (source : LineReader) (stream : LineStream) : Prop where
  readable : tree.read source.path = .ok content
  sound : Sound source
  opened : source.isOpen = true
  entered : ∃ handle window, stream.enter tree = .ok (some ({ source with handle }, window)) ∧
    .close ∉ handle.calls ∧ source.handle.script = (Handle.chunks (window.ahead content)).map .ok

variable {tree : FileTree} {content : List UInt8} {source : LineReader} {stream : LineStream}

/-- The handle of a source gives the line that the window takes. -/
theorem read_of_ahead {handle : Handle} {window : Window}
    (script : handle.script = (Handle.chunks (window.ahead content)).map .ok) :
    handle.read.1 = .ok (window.takeLine content).1 ∧ ((window.takeLine content).1 ≠ [] →
      handle.read.2.script = (Handle.chunks ((window.takeLine content).2.ahead content)).map .ok) := by
  rw [Window.chunks_ahead] at script
  by_cases none : (window.takeLine content).1 = []
  · rw [if_pos none] at script
    exact ⟨by simp [Handle.read, script, none], fun filled => absurd none filled⟩
  · rw [if_neg none] at script
    exact ⟨by simp [Handle.read, script], fun _ => by simp [LineReader.script_read, script]⟩

/-- A stream that is not spent answers with a step of its source, and goes on after a line. -/
theorem next_of_step {moved later : LineReader} {window after : Window} {reply : Reply}
    (entered : stream.enter tree = .ok (some (moved, window)))
    (stepped : step tree moved window = (reply, later, after)) :
    (stream.next tree).1 = reply ∧ ∀ text, reply = .line text → (stream.next tree).2 = running later after := by
  simp only [LineStream.next, entered, stepped]
  cases reply with
  | line text => exact ⟨rfl, fun _ _ => rfl⟩
  | ended | failed _ | fault _ => exact ⟨rfl, nofun⟩

/-- A step gives the source the line that the window takes. -/
theorem step_of_sound {handle : Handle} (window : Window) (readable : tree.read source.path = .ok content)
    (sound : Sound source) (opened : source.isOpen = true) (unclosed : .close ∉ handle.calls) :
    step tree { source with handle } window =
      let received := { source with handle := ⟨[], .read :: handle.calls⟩ }.receive (window.takeLine content).1
      (received.1, received.2, (window.takeLine content).2) := by
  have here : contentOf tree { source with handle } = content := by simp only [contentOf, readable]
  have whole : Sound { source with handle := ⟨[.ok (window.takeLine content).1], handle.calls⟩ } :=
    LineReader.sound_of_open opened (sound.unfinished opened) (sound.unfailed opened) unclosed
  simp only [step, here]
  rw [LineReader.next_of_read whole opened rfl]
  rfl

/-- A stream and a source in step answer alike, and are in step after a line. -/
theorem Follows.next (follows : Follows tree content source stream) :
    (stream.next tree).1 = source.next.1 ∧
      ∀ text, source.next.1 = .line text → Follows tree content source.next.2 (stream.next tree).2 := by
  obtain ⟨handle, window, entered, unclosed, script⟩ := follows.entered
  obtain ⟨read, ahead⟩ := read_of_ahead script
  have asked := LineReader.next_of_read follows.sound follows.opened read
  have stepped := step_of_sound window follows.readable follows.sound follows.opened unclosed
  obtain ⟨same, goesOn⟩ := next_of_step entered stepped
  -- The stream hands over one line at a time, the handle of the source holds them all: the answer cannot tell.
  have alike : (stream.next tree).1 = source.next.1 := by
    rw [same, asked, LineReader.receive_with_handle]
    exact (LineReader.receive_with_handle source _ _).symm
  refine ⟨alike, ?_⟩
  intro text answered
  have given := same.symm.trans (alike.trans answered)
  obtain ⟨filled, received⟩ := LineReader.receive_of_line given
  have moved : source.next.2 = { source with handle := source.handle.read.2, line := source.line + 1 } :=
    (LineReader.next_of_line follows.sound (Prod.ext answered rfl)).2
  have sound := LineReader.sound_next follows.sound
  rw [moved] at sound ⊢
  rw [goesOn text given, received]
  exact ⟨follows.readable, sound, follows.opened, _, _, rfl, by simpa using unclosed, ahead filled⟩

/-- A stream that has not begun is in step with the source that its file opens as. -/
theorem follows_waiting {path encoding : String} (readable : tree.read path = .ok content) :
    Follows tree content (.ofHandle path encoding (.ofBytes content)) (waiting path encoding) where
  readable := readable
  sound := LineReader.sound_ofHandle path encoding _
  opened := rfl
  entered := by
    refine ⟨.ofBytes content, .start, ?_, by simp [Handle.ofBytes, Handle.ofScript], rfl⟩
    simp only [enter, LineReader.openFile, readable]
    rfl

/-- What a source delivers, the stream over its file delivers. -/
theorem delivers_waiting {path encoding : String} {lines : List String} {stop : Option Fault}
    (readable : tree.read path = .ok content)
    (delivers : Delivers LineReader.next (.ofHandle path encoding (.ofBytes content)) lines stop) :
    Delivers (LineStream.next tree) (waiting path encoding) lines stop :=
  delivers.transfer (fun _ _ follows => follows.next) (follows_waiting readable)

theorem restFrom_of_delivers {lines : List String} {stop : Option Fault}
    (delivers : Delivers (LineStream.next tree) stream lines stop) {fuel : Nat} (enough : lines.length < fuel) :
    stream.restFrom tree fuel = (lines, stop) := by
  induction delivers generalizing fuel with
  | ended answered =>
    obtain ⟨fuel, rfl⟩ := Nat.exists_eq_add_one.mpr enough
    simp only [restFrom, answered]
  | @raised _ _ reply _ answered raised =>
    obtain ⟨fuel, rfl⟩ := Nat.exists_eq_add_one.mpr enough
    simp only [restFrom, answered]
    cases reply with
    | failed _ | fault _ => exact congrArg ([], ·) raised
    | line _ | ended => cases raised
  | line answered rest ih =>
    obtain ⟨fuel, rfl⟩ := Nat.exists_eq_add_one.mpr (Nat.zero_lt_of_lt enough)
    rw [List.length_cons, Nat.add_lt_add_iff_right] at enough
    simp only [restFrom, answered, ih enough]

/-- The stream over a file is as long as the listing of its source. -/
theorem rest_waiting {path encoding : String} {lines : List String} {stop : Option Fault}
    (readable : tree.read path = .ok content)
    (delivers : Delivers LineReader.next (.ofHandle path encoding (.ofBytes content)) lines stop) :
    (waiting path encoding).rest tree = (lines, stop) := by
  apply restFrom_of_delivers (delivers_waiting readable delivers)
  apply Nat.lt_succ_of_le
  have whole : (waiting path encoding).left tree = content.length := by
    simp [left, contentOf, LineReader.ofHandle, readable]
  calc lines.length
      ≤ ((Handle.chunks content).map Except.ok).length :=
        LineReader.length_le_of_delivers delivers (LineReader.sound_ofHandle path encoding _)
    _ = (Handle.chunks content).length := List.length_map _
    _ ≤ content.length := Handle.length_chunks_le content
    _ = (waiting path encoding).left tree := whole.symm

end LineStream

namespace Pipeline

/-- Without a transform a pipeline gathers the listing of its source. -/
theorem driveFrom_untransformed (fuel count : Nat) (source : LineReader) :
    driveFrom none fuel count source =
      let listing := LineReader.listFrom fuel source
      ⟨listing.lines.map .text, listing.stop, listing.source⟩ := by
  induction fuel generalizing count source with
  | zero => rfl
  | succ fuel ih =>
    cases answered : source.next with
    | mk reply later =>
      cases reply with
      | line text => simp [driveFrom, LineReader.listFrom, answered, Transform.run, ih]
      | ended | failed _ | fault _ => simp [driveFrom, LineReader.listFrom, answered]

theorem gather_untransformed {pipeline : Pipeline} {files : FileTree} {path : String} {source : LineReader}
    (plain : pipeline.transform = none) (opened : pipeline.opener files path pipeline.encoding = .ok source) :
    (pipeline.gather files path).accepted = source.list.lines.length ∧
      (pipeline.gather files path).result =
        match source.list.stop with
        | none => .ok (source.list.lines.map .text)
        | some fault => .error fault := by
  simp only [gather, opened, plain, drive, driveFrom_untransformed]
  exact ⟨List.length_map _, rfl⟩

/-- Whatever the files and the encoding, the stream over a path comes to an end. The listing of the source that the path
opens as, and the values gathered from it without a transform, are what it delivers up to there: the same lines, and
the same fault after them if it is not the end. If the path cannot be opened all three fail with that before the first
line. -/
theorem reading_paths_agree (journal : Journal) (path encoding : String) :
    let files := journal.files
    let stream := LineStream.waiting path encoding
    let pipeline : Pipeline := ⟨none, encoding, "-", none, LineReader.openFile⟩
    let gathering := (pipeline.gatherTold journal path).2
    ∃ lines stop,
      Delivers (LineStream.next files) stream lines stop ∧ stream.rest files = (lines, stop) ∧
      (∀ fault, LineReader.openFile files path encoding = .error fault → lines = [] ∧ stop = some fault) ∧
      (∀ source, LineReader.openFile files path encoding = .ok source →
        Delivers LineReader.next source lines stop ∧ source.list.lines = lines ∧ source.list.stop = stop) ∧
      gathering.accepted = lines.length ∧
      gathering.result =
        match stop with
        | none => .ok (lines.map .text)
        | some fault => .error fault := by
  intro files stream pipeline gathering
  have gathered : gathering = pipeline.gather files path := rfl
  cases opened : LineReader.openFile files path encoding with
  | error fault =>
    have unopened : LineStream.next files stream = (.fault fault, .spent) := by
      simp only [stream, LineStream.next, LineStream.enter, opened]
      rfl
    have delivers : Delivers (LineStream.next files) stream [] (some fault) := .raised unopened rfl
    refine ⟨[], some fault, delivers, LineStream.restFrom_of_delivers delivers (Nat.succ_pos _), ?_, nofun, ?_⟩
    · rintro other same
      exact ⟨rfl, congrArg some (Except.error.inj same)⟩
    · rw [gathered, (gather_of_refused opened).1]
      exact ⟨rfl, rfl⟩
  | ok source =>
    obtain ⟨content, readable, rfl⟩ := LineReader.exists_of_openFile opened
    have sound : Sound (.ofHandle path encoding (.ofBytes content)) := LineReader.sound_ofHandle path encoding _
    have delivers := LineReader.delivers_list sound
    have streamed := LineStream.delivers_waiting readable delivers
    refine ⟨_, _, streamed, LineStream.rest_waiting readable delivers, nofun, ?_, ?_⟩
    · rintro other same
      cases same
      exact ⟨delivers, rfl, rfl⟩
    · rw [gathered]
      exact gather_untransformed rfl opened

end Pipeline

end Linewise
