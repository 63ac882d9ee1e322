import Linewise.Proofs.JsonText
import Linewise.Proofs.ReportRecords
import Linewise.Proofs.TreeShape
import Linewise.Proofs.Utf8Canonical

/-! The file of a report. It is a JSON text in UTF-8 that denotes the report and nothing else, so what is in the report
can be told from the file. -/
namespace Linewise

open Json (Exact)

theorem Json.exact_optional {α : Type} {write : α → Json} (each : ∀ a, Exact (write a)) (a : Option α) :
    Exact (Json.optional write a) := by
  cases a with
  | none => exact .null
  | some a => exact each a

theorem Json.mem_setField {name : String} {value : Json} {fields : List (String × Json)} {field : String × Json}
    (member : field ∈ Json.setField name value fields) : field = (name, value) ∨ field ∈ fields := by
  induction fields with
  | nil => exact .inl (List.mem_singleton.mp member)
  | cons first rest ih =>
    rw [setField] at member
    split at member
    · rcases List.mem_cons.mp member with same | other
      · exact .inl same
      · exact .inr (List.mem_cons_of_mem _ other)
    · rcases List.mem_cons.mp member with same | other
      · exact .inr (same ▸ List.mem_cons_self)
      · exact (ih other).imp id (List.mem_cons_of_mem _)

theorem Detail.exact_toJson (detail : Detail) : Exact detail.toJson := by
  cases detail with
  | text s | written s => exact .text s
  | int n => exact .int n
  | none => exact .null

theorem Failure.exact_toJson (failure : Failure) : Exact failure.toJson := by
  have cause : Exact failure.causeJson := Json.exact_optional (fun cause => cause.describe.exact_toJson) _
  have line (n : Option Int) : Exact (Json.optional .int n) := Json.exact_optional Exact.int n
  have fields : ∀ field ∈ failure.stage.fields, Exact field.2 := by
    cases failure.stage <;> simp [Stage.fields, Exact.text, line]
  exact .object (List.forall_mem_append.mpr ⟨by simp [Exact.text, cause], fields⟩)

namespace Report

/-- What was noted in a report has no binary number in it. -/
def IsExact (report : Report) : Prop := ∀ field ∈ report.context, Exact field.2

theorem IsExact.note {report : Report} (exact : report.IsExact) (name : String) {value : Json} (noted : Exact value) :
    (report.note name value).IsExact := by
  intro field member
  rcases Json.mem_setField member with rfl | old
  · exact noted
  · exact exact field old

/-- A report stays exact over calls that note exact values. -/
theorem IsExact.after {report : Report} (exact : report.IsExact) {calls : List Call}
    (noted : ∀ name value, Call.note name value ∈ calls → Exact value) : (report.after calls).IsExact := by
  induction calls using List.reverseRecOn with
  | nil => exact exact
  | append_singleton calls call ih =>
    rw [after_concat]
    have earlier := ih fun name value member => noted name value (List.mem_append_left _ member)
    cases call with
    | note name value => exact earlier.note name (noted name value (by simp))
    | source | success | failure | crash | finish => exact earlier

theorem exact_errorJson (report : Report) : Exact report.errorJson := by
  unfold errorJson
  split
  · exact Failure.exact_toJson _
  · exact .object (by simp [Exact.text])
  · exact .null

theorem exact_metaJson (report : Report) : Exact report.metaJson := by
  have known (s : Option String) : Exact (Json.optional .text s) := Json.exact_optional Exact.text s
  have lasted : Exact (Json.optional .int report.duration) := Json.exact_optional Exact.int _
  exact .object (by simp [Exact.text, known, lasted])

theorem IsExact.toJson {report : Report} (exact : report.IsExact) : Exact report.toJson :=
  .object (by simp [Exact.text, Exact.int, report.exact_metaJson, report.exact_errorJson, Exact.object exact])

theorem read_of_write {report : Report} {files after : FileTree} {directory base path : String}
    (written : report.write files directory base = (after, .ok path)) :
    after.read path = .ok (Text.Utf8.encode report.render.toList) := by
  unfold write at written
  split at written
  next => simp at written
  next =>
    dsimp only at written
    split at written
    next => simp at written
    next location there =>
      obtain ⟨rfl, same⟩ := Prod.mk.inj written
      obtain rfl := Except.ok.inj same
      exact FileTree.read_put_of_writable _ there

/-- Reports that are written alike say the same. -/
theorem toJson_of_render {report other : Report} (exact : report.IsExact) (exact' : other.IsExact)
    (same : other.render = report.render) : other.toJson = report.toJson := by
  have written : Json.Element report.render.toList report.toJson := Json.element_render _ exact.toJson 0
  have written' : Json.Element other.render.toList other.toJson := Json.element_render _ exact'.toJson 0
  rw [same] at written'
  exact written.unique written'

/-- A written report is in its file in UTF-8, as a JSON text. This text denotes the report, whatever characters are in
it, and denotes nothing else, and no report with other content is written in the same bytes. -/
theorem file_denotes_report {report : Report} (exact : report.IsExact) {files after : FileTree}
    {directory base path : String} (written : report.write files directory base = (after, .ok path)) :
    ∃ bytes text, after.read path = .ok bytes ∧ Text.Utf8.decode bytes = .ok text ∧
      Json.Element text report.toJson ∧ (∀ value, Json.Element text value → value = report.toJson) ∧
      Json.parse? (String.ofList text) = some report.toJson ∧
      ∀ (other : Report) (files' after' : FileTree) (directory' base' path' : String), other.IsExact →
        other.write files' directory' base' = (after', .ok path') → after'.read path' = .ok bytes →
        other.toJson = report.toJson := by
  have denotes : Json.Element report.render.toList report.toJson := Json.element_render _ exact.toJson 0
  refine ⟨_, report.render.toList, read_of_write written, Text.Utf8.decode_eq_ok_iff.mpr rfl, denotes,
    fun value same => denotes.unique same, Json.parse?_element denotes, ?_⟩
  intro other files' after' directory' base' path' exact' written' alike
  rw [read_of_write written'] at alike
  have same := Text.Utf8.encode_injective (Except.ok.inj alike)
  exact toJson_of_render exact exact' (String.toList_inj.mp same)

/-- A failed run with all sorts of characters in its report, and the same run before it failed. -/
theorem file_denotes_report_escaped :
    let files : FileTree := ⟨[], []⟩
    let calls : List Call := [.note "empty\u2028" (.list []), .note "none" (.object []), .source (some "é\r\n")]
    let sound := (start "\t" "\"r\\" "lines\x7f" none).after calls
    let failed := sound.failWith ⟨.parsing (some 2) "\x00\x1f", some (.value "\x08/")⟩
    let written := failed.write files "out" "r"
    let other := sound.write files "out" "r"
    failed.IsExact ∧ ∃ bytes text, written = (written.1, .ok "out/r.json") ∧
      written.1.read "out/r.json" = .ok bytes ∧ Text.Utf8.decode bytes = .ok text ∧
      Json.Element text failed.toJson ∧ (∀ value, Json.Element text value → value = failed.toJson) ∧
      other.1.read "out/r.json" ≠ .ok bytes := by
  intro files calls sound failed written other
  have exact : sound.IsExact := by
    have fresh : (start "\t" "\"r\\" "lines\x7f" none).IsExact := fun _ none => absurd none List.not_mem_nil
    refine fresh.after fun name value member => ?_
    simp only [calls, List.mem_cons, Call.note.injEq, reduceCtorEq, List.not_mem_nil, or_false] at member
    rcases member with ⟨-, rfl⟩ | ⟨-, rfl⟩
    · exact .list (by simp)
    · exact .object (by simp)
  have exact' : failed.IsExact := exact
  have made : written = (written.1, .ok "out/r.json") := Prod.ext rfl (eq_ok_of_toOption (by decide +kernel))
  have made' : other = (other.1, .ok "out/r.json") := Prod.ext rfl (eq_ok_of_toOption (by decide +kernel))
  obtain ⟨bytes, text, read, decoded, denotes, only, -, apart⟩ := file_denotes_report exact' made
  refine ⟨exact', bytes, text, made, read, decoded, denotes, only, fun same => ?_⟩
  have equal := apart sound files other.1 "out" "r" "out/r.json" exact made' same
  have status : some (Json.text "ok") = some (Json.text "failed") := congrArg (Json.field? "status") equal
  simp at status

end Report

end Linewise
