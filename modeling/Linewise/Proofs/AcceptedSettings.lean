import Linewise.Proofs.CommandOutcome
import Linewise.Proofs.SettingsRefusal

/-! Settings that have been accepted do not fail later. The log level of such settings is one that a channel can have,
and in their encoding every run over a file comes to an outcome: its values, or the one failure to open the file, to read
a line or to parse one. -/
namespace Linewise

theorem Refusal.system_toFault (refusal : Refusal) (path : String) : (refusal.toFault path).isA .system = true := by
  cases refusal <;> rfl

namespace FileTree

/-- Why a path cannot be used: it holds the null character, or the system refuses it. -/
inductive Declined : Fault → Prop
  | null : Declined nullByte
  | refused (refusal : Refusal) (path : String) : Declined (refusal.toFault path)

variable {tree : FileTree} {path : String} {fault : Fault}

theorem system_of_read (whole : '\x00' ∉ path.toList) (refused : tree.read path = .error fault) :
    fault.isA .system = true := by
  have kept : path.toList.contains '\x00' = false := by simpa using whole
  unfold read unlessNull at refused
  rw [kept] at refused
  simp only [Bool.false_eq_true, if_false] at refused
  split at refused
  · split at refused
    · cases refused
      exact Refusal.system_toFault _ path
    · cases refused
  all_goals
    cases refused
    exact Refusal.system_toFault _ path

theorem declined_of_writable (refused : tree.writable path = .error fault) : Declined fault := by
  unfold writable unlessNull at refused
  split at refused
  · cases refused
    exact .null
  · split at refused
    · split at refused
      · cases refused
        exact .refused _ path
      · cases refused
    · cases refused
      exact .refused _ path
    · split at refused
      · cases refused
        exact .refused _ path
      · cases refused
    · cases refused
      exact .refused _ path

theorem declined_of_tolerate {refusal : Refusal} (refused : tree.tolerate path refusal = some fault) :
    Declined fault := by
  unfold tolerate at refused
  split at refused
  · cases refused
  · cases refused
    exact .refused refusal path

theorem declined_of_makeDirectoriesFrom {root : String} {names : List String}
    (refused : (makeDirectoriesFrom root tree names).2 = some fault) : Declined fault := by
  induction names generalizing tree fault with
  | nil =>
    unfold makeDirectoriesFrom at refused
    simp only at refused
    split at refused
    · cases refused
    · exact declined_of_tolerate refused
  | cons name above ih =>
    unfold makeDirectoriesFrom at refused
    simp only at refused
    split at refused
    · cases refused
    · -- The directory above is made first, and then this one once more.
      split at refused
      next made higher above =>
        cases refused
        exact ih (congrArg Prod.snd above)
      next made above =>
        split at refused
        · cases refused
        · cases refused
          exact .refused .missing _
        · exact declined_of_tolerate refused
    · exact declined_of_tolerate refused

theorem declined_of_makeDirectories {path : Path} (refused : (tree.makeDirectories path).2 = some fault) :
    Declined fault := by
  unfold makeDirectories at refused
  split at refused
  · cases refused
    exact .null
  · exact declined_of_makeDirectoriesFrom refused

end FileTree

open FileTree (Declined)

/-- A channel at a level that is known is refused for its log file only. -/
theorem Journal.declined_of_create {journal : Journal} {command runId name : String} {directory : Option String}
    {fault : Fault} (known : ∃ level, Level.find name = .ok level)
    (refused : (journal.create command directory runId name).2 = .error fault) :
    (∃ place, directory = some place ∧ place ≠ "") ∧ Declined fault := by
  obtain ⟨level, known⟩ := known
  unfold create at refused
  rw [known] at refused
  simp only at refused
  split at refused
  · cases refused
  · cases refused
  next place filled =>
    refine ⟨⟨place, rfl, fun blank => filled (by rw [blank])⟩, ?_⟩
    split at refused
    next files cause unmade =>
      cases refused
      exact FileTree.declined_of_makeDirectories (congrArg Prod.snd unmade)
    next files made =>
      split at refused
      next cause unopened =>
        cases refused
        unfold openLog at unopened
        rcases cases_of_bind_error unopened with unwritable | ⟨location, -, opened⟩
        · exact FileTree.declined_of_writable unwritable
        · cases opened
      · cases refused

/-- A text that is no integer of a type is a fault of its value, whatever is wrong with it. -/
theorem IntegerFormat.value_of_parse {type : IntegerFormat} {text : String} {fault : Fault} {bound : Nat}
    (bounded : type.bound = .ok bound) (refused : type.parse text = .error fault) : fault.isA .value = true := by
  unfold parse at refused
  split at refused
  · cases refused
    rfl
  split at refused
  · cases refused
    rfl
  split at refused
  · cases refused
    rfl
  · rw [bounded] at refused
    simp only [bind, Except.bind] at refused
    split at refused
    · cases refused
      rfl
    split at refused
    · cases refused
      rfl
    · cases refused

theorem IntegerFormat.bounded_of_offered {type : IntegerFormat} (member : type ∈ offered) :
    ∃ bound, type.bound = .ok bound := by
  simp only [offered, List.mem_cons, List.not_mem_nil, or_false] at member
  rcases member with rfl | rfl | rfl | rfl <;> exact ⟨_, rfl⟩

namespace Transform

theorem integer_of_find {name : String} {transform : Transform} (found : find name = .ok transform) :
    ∃ type bound, transform = integer type true ∧ type.bound = .ok bound := by
  unfold find at found
  split at found
  next other named =>
    cases found
    obtain ⟨type, member, rfl⟩ := List.mem_map.mp (List.mem_of_find?_eq_some named)
    obtain ⟨bound, bounded⟩ := IntegerFormat.bounded_of_offered member
    exact ⟨type, bound, rfl, bounded⟩
  next => cases found

/-- An offered transform declares every fault it can end in: all are faults of the value. -/
theorem declares_of_find {name line : String} {transform : Transform} {fault : Fault}
    (found : find name = .ok transform) (refused : transform.apply line = .error fault) :
    fault.isA .value = true ∧ Declares (some transform) fault := by
  obtain ⟨type, bound, rfl, bounded⟩ := integer_of_find found
  have value : fault.isA .value = true := IntegerFormat.value_of_parse bounded (eq_error_of_map_error refused)
  exact ⟨value, _, rfl, .value, by simp [integer], value⟩

end Transform

/-- The encoding of accepted settings is one of texts. -/
theorem Settings.isText_of_load {files : FileTree} {environment : Environment} {configPath : Option String}
    {overrides : Overrides} {loaded : Loaded} (ok : load files environment configPath overrides = .ok loaded) :
    Encoding.IsText loaded.settings.encoding := by
  obtain ⟨config, -, settled⟩ := exists_of_bind_ok ok
  obtain ⟨draft, -, settled⟩ := exists_of_bind_ok settled
  obtain ⟨settings, checked, settled⟩ := exists_of_bind_ok settled
  cases settled
  obtain ⟨level, -, checked⟩ := exists_of_bind_ok checked
  obtain ⟨name, -, checked⟩ := exists_of_bind_ok checked
  obtain ⟨_, fit, checked⟩ := exists_of_bind_ok checked
  obtain ⟨logs, -, checked⟩ := exists_of_bind_ok checked
  obtain ⟨reports, -, checked⟩ := exists_of_bind_ok checked
  cases checked
  have verdict := verdict_checkEncoding name
  rw [fit] at verdict
  cases verdict with
  | accepted found feeds => exact ⟨_, found⟩

namespace Pipeline

/-- The failure of a line: its bytes are no text, or its transform declares that the text has no value. -/
inductive Fails (pipeline : Pipeline) (path : String) (number : Nat) (raw : List UInt8) : Fault → Prop
  | unread {cause : Text.Undecodable} (refused : Encoding.decode pipeline.encoding raw = .error (.undecodable cause)) :
      Fails pipeline path number raw (.failed (.reading path (some number)) (some (.undecodable cause)))
  | unparsed {line : String} {cause : Fault} (decoded : Encoding.decode pipeline.encoding raw = .ok line)
      (refused : Transform.made pipeline.transform line = .error cause) (kind : cause.isA .value = true) :
      Fails pipeline path number raw (.failed (.parsing (some number) line) (some cause))

/-- How a run over a file ends: with the values of all its lines, with the failure to open it, or with the failure of
the first line that is not accepted. -/
inductive Ends (pipeline : Pipeline) (files : FileTree) (path : String) (occasion : Nat) : Outcome → Prop
  | values {content : List UInt8} {values : List Value} (readable : files.read path = .ok content)
      (accepted : List.Forall₂ (Accepts pipeline.encoding pipeline.transform) (Text.byteLines content) values) :
      Ends pipeline files path occasion (.ofValues values)
  | unopened {cause : Fault} (unreadable : files.read path = .error cause) (kind : cause.isA .system = true) :
      Ends pipeline files path occasion (.ofFailure ⟨occasion, .failed (.opening path) (some cause)⟩)
  | stopped {content raw : List UInt8} {before after : List (List UInt8)} {fault : Fault}
      (readable : files.read path = .ok content) (cut : Text.byteLines content = before ++ raw :: after)
      (accepted : ∀ earlier ∈ before, ∃ value, Accepts pipeline.encoding pipeline.transform earlier value)
      (fails : pipeline.Fails path (before.length + 1) raw fault) :
      Ends pipeline files path occasion (.ofFailure ⟨occasion, fault⟩)

variable {pipeline : Pipeline} {path : String}

/-- With an offered transform, or none, a line that stops a run is a failure of its own. -/
theorem Stops.fails {number : Nat} {raw : List UInt8} {fault : Fault} (known : Encoding.IsText pipeline.encoding)
    (offered : ∀ transform, pipeline.transform = some transform → ∃ name, Transform.find name = .ok transform)
    (stops : Stops path pipeline.encoding pipeline.transform number raw fault) :
    pipeline.Fails path number raw fault := by
  cases stops with
  | unread refused kind =>
    obtain ⟨cause, rfl⟩ := Encoding.undecodable_of_decode_error known refused
    exact .unread refused
  | @untransformed line _ decoded failed =>
    cases made : Transform.made pipeline.transform line with
    | ok value =>
      rw [Transform.run_made _ made] at failed
      cases failed
    | error cause =>
      cases given : pipeline.transform with
      | none =>
        rw [given] at made
        cases made
      | some transform =>
        obtain ⟨name, found⟩ := offered transform given
        have refused : transform.apply line = .error cause := by rwa [given] at made
        obtain ⟨kind, declared⟩ := Transform.declares_of_find found refused
        rw [Transform.run_declared _ made (given ▸ declared)] at failed
        cases failed
        exact .unparsed decoded made kind

theorem Fails.isSome {number : Nat} {raw : List UInt8} {fault : Fault} (fails : pipeline.Fails path number raw fault) :
    (Failure.ofFault? fault).isSome = true := by
  cases fails <;> rfl

/-- A run over a file that is not its log, in a known text encoding and with an offered transform or none, comes to an
outcome. -/
theorem exists_ends {journal : Journal} (occasion : Nat) (fromFiles : pipeline.opener = LineReader.openFile)
    (known : Encoding.IsText pipeline.encoding)
    (offered : ∀ transform, pipeline.transform = some transform → ∃ name, Transform.find name = .ok transform)
    (whole : '\x00' ∉ path.toList) (spares : pipeline.SparesLog journal path) :
    ∃ outcome, (pipeline.run journal occasion path).2.outcome = .ok outcome ∧
      pipeline.Ends journal.files path occasion outcome := by
  have same := spares.read_tell [pipeline.opening path]
  cases read : journal.files.read path with
  | error cause =>
    have kind := FileTree.system_of_read whole read
    have failed : (pipeline.gatherTold journal path).2.result =
        .error (.failed (.opening path) (some cause)) := by
      simp only [gatherTold, gather, fromFiles, LineReader.openFile, same, read, kind, if_true]
    exact ⟨_, run_stopped occasion failed, .unopened read kind⟩
  | ok content =>
    rcases gather_cases fromFiles known (same.trans read) with
      ⟨values, each, ended⟩ | ⟨before, raw, after, fault, cut, earlier, stops, stopped⟩
    · exact ⟨_, run_collected occasion ended, .values read each⟩
    · have fails := stops.fails known offered
      refine ⟨_, ?_, .stopped read cut earlier fails⟩
      rw [run_stopped occasion stopped, fails.isSome]
      rfl

end Pipeline

end Linewise
