import Linewise.Pipeline
import Linewise.Proofs.Reading
import Mathlib.Data.List.Forall2

/-! The values of a pipeline, said line by line over the bytes of a file. Lines are accepted one after another;
the first that cannot be read or has no value decides how the run ends, with its own number and text. -/
namespace Linewise

/-- What a transform makes of a line by itself; without one a line is its own value. -/
def Transform.made : Option Transform → String → Except Fault Value
  | none, line => .ok (.text line)
  | some transform, line => transform.apply line

/-- Does a transform declare a class that the fault belongs to? -/
def Transform.Declares (transform : Option Transform) (fault : Fault) : Prop :=
  ∃ declaring, transform = some declaring ∧ ∃ kind ∈ declaring.declared, fault.isA kind = true

theorem Transform.run_made {transform : Option Transform} {line : String} {value : Value} (number : Option Int)
    (made : Transform.made transform line = .ok value) : Transform.run transform number line = .ok value := by
  cases transform with
  | none => simpa [Transform.made, Transform.run] using made
  | some transform =>
    simp only [Transform.made] at made
    simp [Transform.run, made]

theorem Transform.run_declared {transform : Option Transform} {line : String} {fault : Fault} (number : Option Int)
    (made : Transform.made transform line = .error fault) (declared : Transform.Declares transform fault) :
    Transform.run transform number line = .error (.failed (.parsing number line) (some fault)) := by
  obtain ⟨declaring, rfl, kind, member, isKind⟩ := declared
  have declares : declaring.declares fault = true := List.any_eq_true.mpr ⟨kind, member, isKind⟩
  simp only [Transform.made] at made
  simp [Transform.run, made, declares]

theorem Transform.run_undeclared {transform : Option Transform} {line : String} {fault : Fault} (number : Option Int)
    (made : Transform.made transform line = .error fault) (undeclared : ¬ Transform.Declares transform fault) :
    Transform.run transform number line = .error fault := by
  cases transform with
  | none => simp [Transform.made] at made
  | some transform =>
    have silent : ¬ transform.declares fault = true := by
      intro declares
      obtain ⟨kind, member, isKind⟩ := List.any_eq_true.mp declares
      exact undeclared ⟨transform, rfl, kind, member, isKind⟩
    simp only [Transform.made] at made
    simp [Transform.run, made, silent]

namespace Pipeline

/-- A line in bytes that can be read and has a value. -/
def Accepts (encoding : String) (transform : Option Transform) (raw : List UInt8) (value : Value) : Prop :=
  ∃ line, Encoding.decode encoding raw = .ok line ∧ Transform.made transform line = .ok value

section

variable {transform : Option Transform} (path : String) {encoding : String}

open LineReader (atWork stripLineBreak)

/-- A source at work gives up its accepted pieces first, and the rest is taken from where they end. -/
theorem driveFrom_accepted (fuel count : Nat) {before : List (List UInt8)} {values : List Value}
    (filled : ∀ piece ∈ before, piece ≠ [])
    (accepted : List.Forall₂ (Accepts encoding transform) (before.map stripLineBreak) values)
    (rest : List (List UInt8)) (calls : List HandleCall) :
    ∃ calls', driveFrom transform (before.length + fuel) count (atWork path encoding count (before ++ rest) calls) =
      let drive := driveFrom transform fuel (count + before.length)
        (atWork path encoding (count + before.length) rest calls')
      { drive with values := values ++ drive.values } := by
  induction before generalizing count values calls with
  | nil =>
    cases accepted
    exact ⟨calls, by simp⟩
  | cons piece before ih =>
    obtain ⟨value, values, ⟨line, decoded, made⟩, later, rfl⟩ := List.forall₂_cons_left_iff.mp accepted
    have here : piece ≠ [] := filled piece (by simp)
    obtain ⟨calls', rest'⟩ := ih (count + 1) (fun other member => filled other (by simp [member])) later (.read :: calls)
    refine ⟨calls', ?_⟩
    have shift : count + 1 + before.length = count + (piece :: before).length := by simp; omega
    have spent : (piece :: before).length + fuel = (before.length + fuel) + 1 := by simp; omega
    rw [shift] at rest'
    rw [spent, List.cons_append, driveFrom, LineReader.next_atWork_line _ _ _ _ here decoded]
    simp only [Transform.run_made _ made, rest', List.cons_append]

theorem driveFrom_end (transform : Option Transform) (encoding : String) (fuel count : Nat) (calls : List HandleCall) :
    ∃ source, driveFrom transform (fuel + 1) count (atWork path encoding count [] calls) = ⟨[], none, source⟩ := by
  obtain ⟨source, ended⟩ := LineReader.next_atWork_end path count calls encoding
  exact ⟨source, by rw [driveFrom, ended]⟩

/-- A line that stops a run, and the fault it stops it with: it cannot be read, or its transform fails. -/
inductive Stops (path encoding : String) (transform : Option Transform) (number : Nat) (raw : List UInt8) : Fault → Prop
  | unread {cause : Fault} (refused : Encoding.decode encoding raw = .error cause)
      (kind : cause.isA .undecodable = true) :
      Stops path encoding transform number raw (.failed (.reading path (some number)) (some cause))
  | untransformed {line : String} {fault : Fault} (decoded : Encoding.decode encoding raw = .ok line)
      (failed : Transform.run transform (some number) line = .error fault) :
      Stops path encoding transform number raw fault

theorem driveFrom_stops (fuel count : Nat) {piece : List UInt8} {fault : Fault} (filled : piece ≠ [])
    (stops : Stops path encoding transform (count + 1) (stripLineBreak piece) fault)
    (rest : List (List UInt8)) (calls : List HandleCall) :
    ∃ source, driveFrom transform (fuel + 1) count (atWork path encoding count (piece :: rest) calls) =
      ⟨[], some fault, source⟩ := by
  cases stops with
  | unread refused kind =>
    obtain ⟨source, failed⟩ := LineReader.next_atWork_undecodable path count rest calls filled refused kind
    exact ⟨source, by rw [driveFrom, failed]; rfl⟩
  | untransformed decoded failed =>
    refine ⟨atWork path encoding (count + 1) rest (.read :: calls), ?_⟩
    rw [driveFrom, LineReader.next_atWork_line _ _ _ _ filled decoded]
    simp only [failed]

end

section

variable {pipeline : Pipeline} {files : FileTree} {path : String} {content : List UInt8}

open LineReader (atWork stripLineBreak)

theorem gather_of_read (fromFiles : pipeline.opener = LineReader.openFile) (readable : files.read path = .ok content) :
    (pipeline.gather files path).result =
      (driveFrom pipeline.transform ((Handle.chunks content).length + 1) 0
        (atWork path pipeline.encoding 0 (Handle.chunks content) [])).result := by
  simp only [gather, fromFiles, LineReader.openFile, readable, drive, LineReader.ofHandle_ofBytes]
  simp [atWork, Drive.result]

/-- Where every line is accepted, their values are gathered in order. -/
theorem gather_accepted (fromFiles : pipeline.opener = LineReader.openFile) (readable : files.read path = .ok content)
    {values : List Value}
    (accepted : List.Forall₂ (Accepts pipeline.encoding pipeline.transform) (Text.byteLines content) values) :
    (pipeline.gather files path).result = .ok values := by
  rw [← LineReader.map_stripLineBreak_chunks] at accepted
  obtain ⟨calls, taken⟩ := driveFrom_accepted path 1 0 (fun _ => Handle.ne_nil_of_mem_chunks) accepted [] []
  obtain ⟨source, ended⟩ := driveFrom_end path pipeline.transform pipeline.encoding 0
    (0 + (Handle.chunks content).length) calls
  rw [List.append_nil, ended] at taken
  rw [gather_of_read fromFiles readable, taken]
  simp [Drive.result]

theorem exists_values {before : List (List UInt8)} {accepts : List UInt8 → Value → Prop}
    (accepted : ∀ earlier ∈ before, ∃ value, accepts earlier value) : ∃ values, List.Forall₂ accepts before values := by
  induction before with
  | nil => exact ⟨[], .nil⟩
  | cons earlier before ih =>
    obtain ⟨value, first⟩ := accepted earlier (by simp)
    obtain ⟨values, later⟩ := ih fun other member => accepted other (by simp [member])
    exact ⟨value :: values, .cons first later⟩

/-- The first line that is not accepted decides what a gathering ends with. -/
theorem gather_stops (fromFiles : pipeline.opener = LineReader.openFile) (readable : files.read path = .ok content)
    {before after : List (List UInt8)} {raw : List UInt8} {fault : Fault}
    (cut : Text.byteLines content = before ++ raw :: after)
    (accepted : ∀ earlier ∈ before, ∃ value, Accepts pipeline.encoding pipeline.transform earlier value)
    (stops : Stops path pipeline.encoding pipeline.transform (before.length + 1) raw fault) :
    (pipeline.gather files path).result = .error fault := by
  rw [← LineReader.map_stripLineBreak_chunks] at cut
  obtain ⟨early, late, pieces, rfl, split⟩ := List.map_eq_append_iff.mp cut
  obtain ⟨piece, later, rfl, rfl, rfl⟩ := List.map_eq_cons_iff.mp split
  have filled : ∀ other ∈ early ++ piece :: later, other ≠ [] :=
    fun other member => Handle.ne_nil_of_mem_chunks (pieces ▸ member)
  obtain ⟨values, each⟩ := exists_values accepted
  obtain ⟨calls, taken⟩ := driveFrom_accepted path ((piece :: later).length + 1) 0
    (fun other member => filled other (by simp [member])) each (piece :: later) []
  rw [List.length_map, ← Nat.zero_add early.length] at stops
  obtain ⟨source, stopped⟩ := driveFrom_stops path (piece :: later).length (0 + early.length)
    (filled piece (by simp)) stops later calls
  have length : (early ++ piece :: later).length + 1 = early.length + ((piece :: later).length + 1) := by simp; omega
  rw [stopped] at taken
  rw [gather_of_read fromFiles readable, pieces, length, taken]
  simp [Drive.result]

/-- A line that is not accepted stops a run in one of these ways. -/
theorem exists_stop {encoding : String} {transform : Option Transform} (known : Encoding.IsText encoding)
    {raw : List UInt8} (refused : ¬ ∃ value, Accepts encoding transform raw value) (path : String) (number : Nat) :
    ∃ fault, Stops path encoding transform number raw fault := by
  cases decoded : Encoding.decode encoding raw with
  | error cause =>
    obtain ⟨bytes, rfl⟩ := Encoding.undecodable_of_decode_error known decoded
    exact ⟨_, .unread decoded rfl⟩
  | ok line =>
    cases made : Transform.made transform line with
    | ok value => exact absurd ⟨value, line, decoded, made⟩ refused
    | error fault =>
      by_cases declared : Transform.Declares transform fault
      · exact ⟨_, .untransformed decoded (Transform.run_declared _ made declared)⟩
      · exact ⟨_, .untransformed decoded (Transform.run_undeclared _ made declared)⟩

/-- A file that can be read is gathered to its end, or up to the first line that is not accepted. -/
theorem gather_cases (fromFiles : pipeline.opener = LineReader.openFile) (known : Encoding.IsText pipeline.encoding)
    (readable : files.read path = .ok content) :
    (∃ values, List.Forall₂ (Accepts pipeline.encoding pipeline.transform) (Text.byteLines content) values ∧
      (pipeline.gather files path).result = .ok values) ∨
    ∃ before raw after fault, Text.byteLines content = before ++ raw :: after ∧
      (∀ earlier ∈ before, ∃ value, Accepts pipeline.encoding pipeline.transform earlier value) ∧
      Stops path pipeline.encoding pipeline.transform (before.length + 1) raw fault ∧
      (pipeline.gather files path).result = .error fault := by
  classical
  cases first : (Text.byteLines content).find?
      (fun raw => ¬ ∃ value, Accepts pipeline.encoding pipeline.transform raw value) with
  | none =>
    have accepted := List.find?_eq_none.mp first
    simp only [decide_eq_true_eq, not_not] at accepted
    obtain ⟨values, each⟩ := exists_values accepted
    exact .inl ⟨values, each, gather_accepted fromFiles readable each⟩
  | some raw =>
    obtain ⟨refused, before, after, cut, earlier⟩ := List.find?_eq_some_iff_append.mp first
    simp only [decide_eq_true_eq, Bool.not_eq_true', decide_eq_false_iff_not, not_not] at refused earlier
    obtain ⟨fault, stops⟩ := exists_stop known refused path (before.length + 1)
    exact .inr ⟨before, raw, after, fault, cut, earlier, stops, gather_stops fromFiles readable cut earlier stops⟩

/-- What has been gathered comes from a file that could be read, and from every line of it. -/
theorem accepted_of_gather (fromFiles : pipeline.opener = LineReader.openFile)
    (known : Encoding.IsText pipeline.encoding) {values : List Value}
    (gathered : (pipeline.gather files path).result = .ok values) :
    ∃ content, files.read path = .ok content ∧
      List.Forall₂ (Accepts pipeline.encoding pipeline.transform) (Text.byteLines content) values := by
  cases readable : files.read path with
  | error fault =>
    cases system : fault.isA .system <;>
      simp [gather, fromFiles, LineReader.openFile, readable, system] at gathered
  | ok content =>
    refine ⟨content, rfl, ?_⟩
    rcases gather_cases fromFiles known readable with ⟨others, each, ended⟩ | ⟨_, _, _, fault, -, -, -, stopped⟩
    · rw [ended] at gathered
      exact Except.ok.inj gathered ▸ each
    · rw [stopped] at gathered
      cases gathered

theorem run_collected {journal : Journal} {values : List Value} (occasion : Nat)
    (collected : (pipeline.gatherTold journal path).2.result = .ok values) :
    (pipeline.run journal occasion path).2.outcome = .ok (.ofValues values) := by
  simp only [run, collected]

/-- A run accounts for a failed stage; any other fault passes through it. -/
theorem run_stopped {journal : Journal} {fault : Fault} (occasion : Nat)
    (collected : (pipeline.gatherTold journal path).2.result = .error fault) :
    (pipeline.run journal occasion path).2.outcome =
      if (Failure.ofFault? fault).isSome then .ok (.ofFailure ⟨occasion, fault⟩) else .error fault := by
  simp only [run, collected]
  cases Failure.ofFault? fault <;> rfl

end

end Pipeline

end Linewise
