import Linewise.Proofs.RaisedCalls
import Linewise.Proofs.ReferenceRun

/-! How far a pipeline gets, said over the listing of its source: it takes the lines that have a value one by one, and
the first without one, or what ended the listing, decides how it ends. A failure that names a line names the one after
those. -/
namespace Linewise

/-- Does a transform make a value of the line? -/
def Transform.hasValue (transform : Option Transform) (line : String) : Bool :=
  match Transform.made transform line with
  | .ok _ => true
  | .error _ => false

namespace LineReader

/-- A source over a handle, before the first call. -/
def IsFresh (source : LineReader) : Prop :=
  ∃ path encoding script, source = ofHandle path encoding (.ofScript script)

theorem failure_close (source : LineReader) : source.close.failure = source.failure := by
  unfold close
  split <;> rfl

theorem exists_of_openFile {tree : FileTree} {path encoding : String} {source : LineReader}
    (opened : openFile tree path encoding = .ok source) :
    ∃ content, tree.read path = .ok content ∧ source = ofHandle path encoding (.ofBytes content) := by
  unfold openFile at opened
  split at opened
  · rename_i content readable
    exact ⟨content, readable, (Except.ok.inj opened).symm⟩
  · split at opened <;> cases opened

section

variable {source later : LineReader} {breakdown : Breakdown}

/-- A breakdown that has ended a source at a line of the path. -/
def BrokenAt (later : LineReader) (path : String) (line : Nat) (breakdown : Breakdown) : Prop :=
  breakdown.failure.stage = .reading path (some line) ∧ later.failure = some breakdown

/-- A source that fails at a call says at which line. -/
theorem brokenAt_of_next (sound : Sound source) (unfailed : source.failure = none)
    (answered : source.next = (.failed breakdown, later)) :
    later.BrokenAt source.path (source.line + 1) breakdown := by
  cases raising_of_failed sound unfailed answered with
  | broken given unreadable failure => exact ⟨congrArg Failure.stage failure, failure_close _⟩

/-- Without a failure in the answer there is none in the source. -/
theorem unfailed_next (sound : Sound source) (unfailed : source.failure = none) :
    source.next.2.failure = none ∨ ∃ breakdown, source.next.1 = .failed breakdown := by
  have turn := turn_next sound
  generalize source.next = result at turn
  cases turn with
  | shut closed => exact .inl unfailed
  | line opened text => exact .inl unfailed
  | ended opened => exact .inl ((failure_close _).trans unfailed)
  | failed opened breakdown => exact .inr ⟨breakdown, rfl⟩
  | fault opened fault line least most => exact .inl unfailed

/-- The failure that ends a listing names the line after those that it holds. -/
theorem stage_of_listFrom (fuel : Nat) (sound : Sound source) (unfailed : source.failure = none)
    (broken : (listFrom fuel source).source.failure = some breakdown) :
    (listFrom fuel source).stop = some breakdown.toFault ∧
      breakdown.failure.stage =
        .reading source.path (some (source.line + (listFrom fuel source).lines.length + 1 : Nat)) := by
  induction fuel generalizing source with
  | zero => rw [listFrom, unfailed] at broken; cases broken
  | succ fuel ih =>
    have kept := unfailed_next sound unfailed
    cases answered : source.next with
    | mk reply later =>
      rw [answered] at kept
      cases reply with
      | line text =>
        obtain ⟨opened, rfl⟩ := next_of_line sound answered
        have after := sound_next sound
        rw [answered] at after
        simp only [listFrom, answered] at broken ⊢
        obtain ⟨stopped, stage⟩ := ih after unfailed broken
        refine ⟨stopped, stage.trans ?_⟩
        simp only [List.length_cons]
        congr 3
        omega
      | failed failure =>
        obtain ⟨stage, known⟩ := brokenAt_of_next sound unfailed answered
        simp only [listFrom, answered] at broken ⊢
        obtain rfl : failure = breakdown := Option.some.inj (known.symm.trans broken)
        exact ⟨rfl, stage⟩
      | ended | fault _ =>
        simp only [listFrom, answered] at broken
        rcases kept with none | ⟨_, failed⟩
        · rw [none] at broken
          cases broken
        · cases failed

end

end LineReader

/-- An opener whose sources have not been read from. -/
def Opener.OpensFresh (opener : Opener) : Prop :=
  ∀ (files : FileTree) (path encoding : String) (source : LineReader),
    opener files path encoding = .ok source → source.IsFresh

theorem LineReader.openFile_opensFresh : Opener.OpensFresh openFile := by
  intro files path encoding source opened
  obtain ⟨content, -, rfl⟩ := exists_of_openFile opened
  exact ⟨path, encoding, _, rfl⟩

namespace Pipeline

open LineReader (Listing listFrom)

/-- How a pipeline stops that has taken some of the lines of a listing, with the number of the next. -/
inductive Halts (transform : Option Transform) (listing : Listing) (taken number : Nat) : Option Fault → Prop
  | ended (all : listing.lines.length = taken) : Halts transform listing taken number listing.stop
  | unparsed {line : String} {cause : Fault} (next : listing.lines[taken]? = some line)
      (made : Transform.made transform line = .error cause) (declared : Transform.Declares transform cause) :
      Halts transform listing taken number (some (.failed (.parsing (some number) line) (some cause)))
  | passed {line : String} {cause : Fault} (next : listing.lines[taken]? = some line)
      (made : Transform.made transform line = .error cause) (undeclared : ¬ Transform.Declares transform cause) :
      Halts transform listing taken number (some cause)

/-- How many lines have a value before the first that has none. -/
def taken (transform : Option Transform) (listing : Listing) : Nat :=
  (listing.lines.takeWhile (Transform.hasValue transform)).length

theorem Halts.cons {transform : Option Transform} {listing : Listing} {taken number : Nat} {stop : Option Fault}
    (halts : Halts transform listing taken number stop) (line : String) :
    Halts transform { listing with lines := line :: listing.lines } (taken + 1) number stop := by
  cases halts with
  | ended all => exact .ended (by simp [all])
  | unparsed next made declared => exact .unparsed (by simpa using next) made declared
  | passed next made undeclared => exact .passed (by simpa using next) made undeclared

/-- A pipeline takes its lines in step with the listing. -/
theorem driveFrom_halts (transform : Option Transform) (fuel count : Nat) (source : LineReader) :
    (driveFrom transform fuel count source).values.length = taken transform (listFrom fuel source) ∧
      Halts transform (listFrom fuel source) (taken transform (listFrom fuel source))
        (count + taken transform (listFrom fuel source) + 1) (driveFrom transform fuel count source).stop := by
  induction fuel generalizing count source with
  | zero => exact ⟨rfl, .ended rfl⟩
  | succ fuel ih =>
    cases answered : source.next with
    | mk reply later =>
      cases reply with
      | ended | failed _ | fault _ =>
        simp only [listFrom, driveFrom, answered]
        exact ⟨rfl, .ended rfl⟩
      | line text =>
        simp only [listFrom, driveFrom, answered]
        cases made : Transform.made transform text with
        | ok value =>
          obtain ⟨same, halts⟩ := ih (count + 1) later
          have more : taken transform { listFrom fuel later with lines := text :: (listFrom fuel later).lines } =
              taken transform (listFrom fuel later) + 1 := by
            simp [taken, Transform.hasValue, made]
          rw [Transform.run_made _ made, more]
          refine ⟨by simp [same], ?_⟩
          have number : count + (taken transform (listFrom fuel later) + 1) + 1 =
              count + 1 + taken transform (listFrom fuel later) + 1 := by omega
          rw [number]
          exact halts.cons text
        | error cause =>
          have none : taken transform { listFrom fuel later with lines := text :: (listFrom fuel later).lines } = 0 := by
            simp [taken, Transform.hasValue, made]
          rw [none]
          by_cases declared : Transform.Declares transform cause
          · rw [Transform.run_declared _ made declared]
            exact ⟨rfl, .unparsed rfl made declared⟩
          · rw [Transform.run_undeclared _ made declared]
            exact ⟨rfl, .passed rfl made declared⟩

/-- How many lines of a file have a value before the first that has none. -/
def reach (pipeline : Pipeline) (files : FileTree) (path : String) : Nat :=
  match pipeline.opener files path pipeline.encoding with
  | .error _ => 0
  | .ok source => taken pipeline.transform source.list

/-- How a reading ends that has taken a number of lines. -/
inductive Ended (pipeline : Pipeline) (files : FileTree) (path : String) (count : Nat) :
    Except Fault (List Value) → Prop
  | unopened {fault : Fault} (refused : pipeline.opener files path pipeline.encoding = .error fault)
      (none : count = 0) : Ended pipeline files path count (.error fault)
  | exhausted {source : LineReader} {values : List Value}
      (opened : pipeline.opener files path pipeline.encoding = .ok source) (all : source.list.lines.length = count)
      (ended : source.list.stop = none) (valued : values.length = count) : Ended pipeline files path count (.ok values)
  | unread {source : LineReader} {breakdown : Breakdown}
      (opened : pipeline.opener files path pipeline.encoding = .ok source) (all : source.list.lines.length = count)
      (broken : source.list.source.BrokenAt source.path (count + 1) breakdown) :
      Ended pipeline files path count (.error breakdown.toFault)
  | interrupted {source : LineReader} {fault : Fault}
      (opened : pipeline.opener files path pipeline.encoding = .ok source) (all : source.list.lines.length = count)
      (unbroken : source.list.source.failure = none) (stopped : source.list.stop = some fault) :
      Ended pipeline files path count (.error fault)
  | unparsed {source : LineReader} {line : String} {cause : Fault}
      (opened : pipeline.opener files path pipeline.encoding = .ok source)
      (next : source.list.lines[count]? = some line) (made : Transform.made pipeline.transform line = .error cause)
      (declared : Transform.Declares pipeline.transform cause) :
      Ended pipeline files path count (.error (.failed (.parsing (some (count + 1 : Nat)) line) (some cause)))
  | passed {source : LineReader} {line : String} {cause : Fault}
      (opened : pipeline.opener files path pipeline.encoding = .ok source)
      (next : source.list.lines[count]? = some line) (made : Transform.made pipeline.transform line = .error cause)
      (undeclared : ¬ Transform.Declares pipeline.transform cause) : Ended pipeline files path count (.error cause)

section

variable {pipeline : Pipeline} {files : FileTree} {path : String}

theorem gather_of_refused {fault : Fault} (refused : pipeline.opener files path pipeline.encoding = .error fault) :
    pipeline.gather files path = ⟨.error fault, 0, none⟩ ∧ pipeline.reach files path = 0 := by
  simp [gather, reach, refused]

/-- A source that ends of itself does so with the end, its own failure, or a fault of the handle. -/
theorem ended_of_stop {source last : LineReader} {values : List Value} {stop : Option Fault}
    (opened : pipeline.opener files path pipeline.encoding = .ok source) (fresh : source.IsFresh)
    (all : source.list.lines.length = values.length) (stopped : source.list.stop = stop) :
    Ended pipeline files path values.length (Drive.mk values stop last).result := by
  cases stop with
  | none => exact .exhausted opened all stopped rfl
  | some fault =>
    cases failed : source.list.source.failure with
    | none => exact .interrupted opened all failed stopped
    | some breakdown =>
      obtain ⟨named, encoding, script, rfl⟩ := fresh
      obtain ⟨known, stage⟩ := LineReader.stage_of_listFrom _ (LineReader.sound_ofHandle named encoding script) rfl failed
      obtain rfl : breakdown.toFault = fault := Option.some.inj (known.symm.trans stopped)
      refine .unread opened all ⟨?_, failed⟩
      rw [stage, ← all]
      simp [LineReader.list, LineReader.ofHandle]

theorem Ended.length_eq {count : Nat} {values : List Value} (ended : Ended pipeline files path count (.ok values)) :
    values.length = count := by
  cases ended with
  | exhausted opened all ended valued => exact valued

/-- Every gathering takes the lines that have a value, and ends in one of these ways. -/
theorem ended_gather (fresh : pipeline.opener.OpensFresh) (files : FileTree) (path : String) :
    (pipeline.gather files path).accepted = pipeline.reach files path ∧
      Ended pipeline files path (pipeline.reach files path) (pipeline.gather files path).result := by
  cases opened : pipeline.opener files path pipeline.encoding with
  | error fault =>
    obtain ⟨gathered, none⟩ := gather_of_refused opened
    rw [gathered, none]
    exact ⟨rfl, .unopened opened rfl⟩
  | ok source =>
    obtain ⟨count, halts⟩ := driveFrom_halts pipeline.transform (source.handle.script.length + 1) 0 source
    simp only [gather, reach, opened, drive, LineReader.list]
    generalize driveFrom pipeline.transform (source.handle.script.length + 1) 0 source = driven at count halts
    obtain ⟨values, stop, last⟩ := driven
    simp only at count halts ⊢
    rw [← count, Nat.zero_add] at halts
    rw [← count]
    refine ⟨rfl, ?_⟩
    cases halts with
    | ended all => exact ended_of_stop opened (fresh files path pipeline.encoding source opened) all rfl
    | unparsed next made declared => exact .unparsed opened next made declared
    | passed next made undeclared => exact .passed opened next made undeclared

end

end Pipeline

end Linewise
