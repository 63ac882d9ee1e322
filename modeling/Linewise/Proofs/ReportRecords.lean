import Linewise.Proofs.CommandWork
import Linewise.Proofs.FailureViews
import Mathlib.Data.List.Induction

/-! What a report says after any calls on it. Its status and its error always agree. Its status and its count do unless
a success is recorded after a fault nobody expected: success takes a failure back, and not such a fault, so the report
then says that the run failed and counts values all the same. -/
namespace Linewise.Report

/-- A call on a report. -/
inductive Call
  | note (name : String) (value : Json)
  | source (place : Option String)
  | success (count : Int)
  | failure (reason : Failure)
  | crash (fault : Fault)
  | finish (now : String) (finishedAt : Option String) (duration : Option Int)

namespace Call

def apply (report : Report) : Call → Report
  | note name value => report.note name value
  | source place => report.readFrom place
  | success count => report.succeed count
  | failure reason => report.failWith reason
  | crash fault => report.crashWith fault
  | finish now finishedAt duration => report.finish now finishedAt duration

/-- Does the call record how the run went? -/
def isRecord : Call → Bool
  | success _ | failure _ | crash _ => true
  | note _ _ | source _ | finish _ _ _ => false

/-- The fault that a call records as one nobody expected. -/
def crash? : Call → Option Fault
  | crash fault => some fault
  | _ => none

/-- How many values there are after a record. -/
def count : Call → Int
  | success count => count
  | _ => 0

end Call

/-- A report after calls on it. -/
def after (report : Report) (calls : List Call) : Report := calls.foldl Call.apply report

/-- The last call that recorded how the run went. -/
def lastRecord? (calls : List Call) : Option Call := (calls.filter Call.isRecord).getLast?

theorem after_concat (report : Report) (calls : List Call) (call : Call) :
    report.after (calls ++ [call]) = call.apply (report.after calls) := by
  simp [after]

/-- A call that records is the last one to do so, and any other leaves the last one as it was. -/
theorem lastRecord?_concat (calls : List Call) (call : Call) :
    lastRecord? (calls ++ [call]) = if call.isRecord then some call else lastRecord? calls := by
  cases records : call.isRecord <;> simp [lastRecord?, records]

/-- What calls leave in a report: the count of the last record, the last fault nobody expected, and no failure once
success has been recorded. -/
structure Recorded (calls : List Call) (report : Report) : Prop where
  count : report.count = ((lastRecord? calls).map Call.count).getD 0
  unexpected : report.unexpected = (calls.filterMap Call.crash?).getLast?
  failure : ∀ n, lastRecord? calls = some (.success n) → report.failure = none

theorem recorded_start (now runId command : String) (startedAt : Option String) :
    Recorded [] (start now runId command startedAt) :=
  ⟨rfl, rfl, by simp [lastRecord?]⟩

theorem Recorded.apply {calls : List Call} {report : Report} (recorded : Recorded calls report) (call : Call) :
    Recorded (calls ++ [call]) (call.apply report) := by
  obtain ⟨count, unexpected, failure⟩ := recorded
  cases call <;> constructor <;>
    simp_all [lastRecord?_concat, Call.apply, Call.isRecord, Call.crash?, Call.count, note, readFrom, succeed, failWith,
      crashWith, finish]

theorem recorded_after {report : Report} (fresh : Recorded [] report) (calls : List Call) :
    Recorded calls (report.after calls) := by
  induction calls using List.reverseRecOn with
  | nil => exact fresh
  | append_singleton calls call ih =>
    rw [after_concat]
    exact ih.apply call

theorem field?_status (report : Report) : report.toJson.field? "status" = some (.text report.status) := rfl

theorem field?_error (report : Report) : report.toJson.field? "error" = some report.errorJson := rfl

theorem field?_count (report : Report) : report.toJson.field? "values_count" = some (.int report.count) := rfl

theorem status_eq_ok_iff (report : Report) :
    report.status = "ok" ↔ report.failure = none ∧ report.unexpected = none := by
  unfold status
  cases report.failure <;> cases report.unexpected <;> simp

theorem status_eq_failed_iff (report : Report) :
    report.status = "failed" ↔ report.failure ≠ none ∨ report.unexpected ≠ none := by
  unfold status
  cases report.failure <;> cases report.unexpected <;> simp

theorem errorJson_eq_null_iff (report : Report) :
    report.errorJson = .null ↔ report.failure = none ∧ report.unexpected = none := by
  unfold errorJson
  cases report.failure <;> cases report.unexpected <;> simp [Failure.toJson]

theorem getLast?_crash_ne_none_iff (calls : List Call) :
    (calls.filterMap Call.crash?).getLast? ≠ none ↔ ∃ fault, Call.crash fault ∈ calls := by
  rw [ne_eq, List.getLast?_eq_none_iff, List.filterMap_eq_nil_iff, not_forall]
  constructor
  · rintro ⟨call, recorded⟩
    rw [Classical.not_imp] at recorded
    obtain ⟨member, recorded⟩ := recorded
    cases call with
    | crash fault => exact ⟨fault, member⟩
    | note | source | success | failure | finish => exact absurd rfl recorded
  · rintro ⟨fault, member⟩
    exact ⟨.crash fault, fun none => by cases none member⟩

/-- After any calls a report says that the run went well just if it holds no error. It says that the run failed and
counts values just if some values were recorded last, after a fault nobody expected. -/
theorem consistent_unless_success_after_crash (now runId command : String) (startedAt : Option String)
    (calls : List Call) :
    let built := ((start now runId command startedAt).after calls).toJson
    ∃ status error count, built.field? "status" = some (.text status) ∧ built.field? "error" = some error ∧
      built.field? "values_count" = some (.int count) ∧ (status = "ok" ∨ status = "failed") ∧
      (status = "ok" ↔ error = .null) ∧
      (status = "failed" ∧ count ≠ 0 ↔
        (∃ fault, Call.crash fault ∈ calls) ∧ ∃ n, lastRecord? calls = some (.success n) ∧ n ≠ 0) := by
  have recorded := recorded_after (recorded_start now runId command startedAt) calls
  refine ⟨_, _, _, field?_status _, field?_error _, field?_count _, ?_, ?_, ?_⟩
  · unfold status
    split <;> simp
  · rw [status_eq_ok_iff, errorJson_eq_null_iff]
  rw [status_eq_failed_iff, ← getLast?_crash_ne_none_iff, ← recorded.unexpected]
  constructor
  · rintro ⟨failed, counted⟩
    rw [recorded.count] at counted
    -- Only a success leaves a count, and it leaves no failure.
    cases last : lastRecord? calls with
    | none => simp [last] at counted
    | some call =>
      cases call with
      | success n =>
        have unfailed := recorded.failure n last
        simp only [last, Option.map_some, Call.count, Option.getD_some] at counted
        exact ⟨failed.resolve_left fun some => some unfailed, n, rfl, counted⟩
      | note | source | failure | crash | finish => simp [last, Call.count] at counted
  · rintro ⟨crashed, n, last, counted⟩
    refine ⟨.inr crashed, ?_⟩
    simpa [recorded.count, last, Call.count] using counted

/-- Three values after a fault nobody expected, and then the same in the other order. -/
theorem consistent_unless_success_after_crash_three :
    let boom : Fault := .plain .runtime [.text "boom"]
    let first := ((start "now" "r" "lines" none).after [.crash boom, .success 3]).toJson
    let second := ((start "now" "r" "lines" none).after [.success 3, .crash boom]).toJson
    (∃ error, first.field? "status" = some (.text "failed") ∧ first.field? "values_count" = some (.int 3) ∧
      first.field? "error" = some error ∧ error ≠ .null) ∧
    second.field? "status" = some (.text "failed") ∧ second.field? "values_count" = some (.int 0) := by
  intro boom first second
  obtain ⟨status, error, count, stated, held, counted, -, agree, broken⟩ :=
    consistent_unless_success_after_crash "now" "r" "lines" none [.crash boom, .success 3]
  obtain ⟨failed, -⟩ := broken.mpr ⟨⟨boom, by simp⟩, 3, rfl, by decide⟩
  subst failed
  refine ⟨⟨error, stated, rfl, held, fun null => ?_⟩, rfl, rfl⟩
  exact absurd (agree.mpr null) (by decide)

end Linewise.Report
