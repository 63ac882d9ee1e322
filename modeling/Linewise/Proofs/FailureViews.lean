import Linewise.Proofs.Diagnostics

/-! The views of a failure whose fields are corrected after it was announced. Its message, wherever it is asked for, is
that of the fields as they are now; the announcement stays. A cause is never left without words, be it a failure itself,
with a cause of its own and so on, and a message that tells of a cause ends in these words. -/
namespace Linewise

/-- A field of an object. -/
def Json.field? (name : String) : Json → Option Json
  | object fields => fields.lookup name
  | _ => none

namespace Correction

def name? : Correction → Option String
  | .name value => some value
  | _ => none

def path? : Correction → Option String
  | .path value => some value
  | _ => none

def line? : Correction → Option (Option Int)
  | .line value => some value
  | _ => none

def text? : Correction → Option String
  | .text value => some value
  | _ => none

def cause? : Correction → Option (Option Fault)
  | .cause value => some value
  | _ => none

/-- A field after corrections: what it was set to last, or else what it was. -/
def last {α : Type} (set? : Correction → Option α) (old : α) (corrections : List Correction) : α :=
  (corrections.filterMap set?).getLast?.getD old

variable {α : Type} (set? : Correction → Option α) (old : α)

@[simp] theorem last_nil : last set? old [] = old := rfl

@[simp] theorem last_cons (correction : Correction) (later : List Correction) :
    last set? old (correction :: later) = last set? ((set? correction).getD old) later := by
  cases sets : set? correction with
  | none => simp [last, sets]
  | some value => simp [last, sets, List.getLast?_cons]

end Correction

open Correction (last)

/-- A stage with its fields as they are after corrections. A field that the stage lacks is not among them. -/
def Stage.corrected (corrections : List Correction) : Stage → Stage
  | argument name => argument (last Correction.name? name corrections)
  | opening path => opening (last Correction.path? path corrections)
  | reading path line => reading (last Correction.path? path corrections) (last Correction.line? line corrections)
  | parsing line text => parsing (last Correction.line? line corrections) (last Correction.text? text corrections)

/-- A failure with its fields as they are after corrections. -/
def Failure.corrected (failure : Failure) (corrections : List Correction) : Failure :=
  ⟨failure.stage.corrected corrections, last Correction.cause? failure.cause corrections⟩

theorem Stage.corrected_cons (stage : Stage) (correction : Correction) (later : List Correction) :
    stage.corrected (correction :: later) = (stage.correct correction).corrected later := by
  rcases stage with _ | _ | _ | _ <;> cases correction <;>
    simp [corrected, correct, Correction.name?, Correction.path?, Correction.line?, Correction.text?]

namespace Incident

/-- One correction sets one field. -/
theorem corrected_correct (incident : Incident) (correction : Correction) (later : List Correction) :
    (incident.correct correction).failure.corrected later = incident.failure.corrected (correction :: later) := by
  cases correction <;> simp [correct, Failure.corrected, Stage.corrected_cons, Correction.cause?]

theorem announced_correct (incident : Incident) (correction : Correction) :
    (incident.correct correction).announced = incident.announced := by
  cases correction <;> rfl

/-- After any corrections each field is what it was set to last, and the announcement is what it was. -/
theorem foldl_correct (incident : Incident) (corrections : List Correction) :
    corrections.foldl correct incident = ⟨incident.failure.corrected corrections, incident.announced⟩ := by
  induction corrections generalizing incident with
  | nil =>
    obtain ⟨⟨stage, cause⟩, announced⟩ := incident
    rcases stage with _ | _ | _ | _ <;> rfl
  | cons correction later ih =>
    rw [List.foldl_cons, ih, corrected_correct, announced_correct]

end Incident

/-- A fault of the system with the reason it was given: the second of two to five details, if that says anything. -/
inductive Fault.SystemReason : Fault → Detail → Prop
  | mk {kind : FaultClass} {number reason : Detail} {more : List Detail} (system : kind.isA .system = true)
      (few : more.length ≤ 3) (filled : reason.isFilled = true) :
      SystemReason (.plain kind (number :: reason :: more)) reason

theorem FaultClass.name_ne_empty (kind : FaultClass) : kind.name ≠ "" := by
  cases kind <;> simp [name]

theorem Detail.plain_ne_empty {detail : Detail} (filled : detail.isFilled = true) : detail.plain ≠ "" := by
  cases detail with
  | text s | written s => simpa [isFilled, plain] using filled
  | none => simp [isFilled] at filled
  | int n =>
    intro empty
    have digits := IntegerFormat.canonical_toString n
    rw [show toString n = "" from empty] at digits
    cases digits with
    | positive decimal => exact decimal.filled rfl

/-- Two details and at most three more make a note for a fault of the system, and for no other. -/
theorem SystemNote.exists_ofDetails? (kind : FaultClass) (number reason : Detail) (more : List Detail) :
    ∃ file target, ofDetails? kind (number :: reason :: more) =
      if kind.isA .system = true ∧ more.length ≤ 3 then some ⟨number, reason, file, target⟩ else none := by
  simp only [ofDetails?, Bool.and_eq_true, decide_eq_true_eq]
  exact ⟨_, _, rfl⟩

namespace Fault

variable {fault : Fault} {reason : Detail}

theorem systemReason?_eq_some_iff : fault.systemReason? = some reason ↔ fault.SystemReason reason := by
  constructor
  · intro given
    rcases fault with ⟨kind, _ | ⟨number, _ | ⟨second, more⟩⟩⟩ | _ | _ | _
    case plain.cons.cons =>
      obtain ⟨file, target, noted⟩ := SystemNote.exists_ofDetails? kind number second more
      rw [systemReason?, noted] at given
      by_cases sort : kind.isA .system = true ∧ more.length ≤ 3
      · by_cases filled : second.isFilled = true
        · simp only [sort, filled, and_self, if_true, Option.some.injEq] at given
          subst given
          exact .mk sort.1 sort.2 filled
        · simp [sort, filled] at given
      · simp [sort] at given
    all_goals simp [systemReason?, SystemNote.ofDetails?] at given
  · rintro ⟨system, few, filled⟩
    simp [systemReason?, SystemNote.ofDetails?, system, few, filled]

/-- The system's own words stand alone, without the error's number and the files. -/
theorem describe_of_systemReason (given : fault.SystemReason reason) : fault.describe = reason := by
  simp [describe, describeBy, systemReason?_eq_some_iff.mpr given]

/-- Without them a cause is described by its message, or by its class if it has none. -/
theorem describe_of_unspoken (unspoken : ∀ reason, ¬ fault.SystemReason reason) :
    fault.describe = .text (if fault.message = "" then fault.kind.name else fault.message) := by
  have none : fault.systemReason? = none := by
    rw [Option.eq_none_iff_forall_ne_some]
    exact fun reason given => unspoken reason (systemReason?_eq_some_iff.mp given)
  simp only [describe, describeBy, none]
  split <;> rfl

/-- No cause goes without words. -/
theorem describe_ne_empty (fault : Fault) : fault.describe.plain ≠ "" := by
  cases given : fault.systemReason? with
  | some reason =>
    rw [systemReason?_eq_some_iff] at given
    rw [describe_of_systemReason given]
    cases given with
    | mk system few filled => exact Detail.plain_ne_empty filled
  | none =>
    simp only [describe, describeBy, given]
    split
    · exact fault.kind.name_ne_empty
    · assumption

end Fault

/-- Every diagnostic but that of a missing argument ends in the reason. -/
theorem Stage.suffix_message {stage : Stage} (caused : stage.kind ≠ "ARGUMENT_MISSING") (reason : String) :
    (": " ++ reason).toList <:+ (stage.message reason).toList := by
  unfold message
  rcases stage with _ | path | ⟨path, line⟩ | ⟨_ | n, text⟩
  · exact absurd rfl caused
  · exact ⟨("Could not open file " ++ path).toList, by simp⟩
  · exact ⟨("Error reading file " ++ path ++ " at line " ++ lineText line).toList, by simp⟩
  · exact ⟨("Could not parse argument " ++ Text.quote text).toList, by simp⟩
  · exact ⟨("Error parsing line " ++ toString n ++ " (" ++ Text.quote text ++ ")").toList, by simp⟩

namespace Failure

theorem field?_message (failure : Failure) : failure.toJson.field? "message" = some (.text failure.message) := rfl

theorem field?_cause {failure : Failure} {cause : Fault} (caused : failure.cause = some cause) :
    failure.toJson.field? "cause" = some cause.describe.toJson := by
  have told : failure.toJson.field? "cause" = some failure.causeJson := rfl
  rw [told, causeJson, caused]
  rfl

theorem reason_of_cause {failure : Failure} {cause : Fault} (caused : failure.cause = some cause) :
    failure.reason = cause.describe.plain := by
  simp [reason, caused]

end Failure

end Linewise
