import Linewise.Fault
import Linewise.Proofs.IntegerText
import Linewise.Proofs.QuotedText

/-! What a diagnostic tells of the failure it reports. Its first words give the kind of failure. Where a text could not
be parsed, the diagnostic also gives back the line's number, the text and the reason, whatever these hold: the number
ends at the first space, and the quoted text says itself where it ends. -/
namespace Linewise

namespace Stage

/-- A diagnostic, for any choice of the characters that stand for themselves in a quoted text. -/
def messageIn (printable : Char → Bool) (reason : String) : Stage → String
  | argument name => message reason (argument name)
  | opening path => message reason (opening path)
  | reading path line => message reason (reading path line)
  | parsing none text =>
    "Could not parse argument " ++ String.ofList (Text.Quoted.encode printable text.toList) ++ ": " ++ reason
  | parsing (some n) text =>
    "Error parsing line " ++ toString n ++ " (" ++ String.ofList (Text.Quoted.encode printable text.toList) ++ "): " ++
      reason

theorem messageIn_isPrintable (reason : String) (stage : Stage) :
    stage.messageIn Text.isPrintable reason = stage.message reason := by
  cases stage with
  | argument | opening | reading => rfl
  | parsing line text => cases line <;> rfl

/-- The first eleven characters of a diagnostic. -/
def lead : Stage → String
  | argument _ => "Not enough "
  | opening _ => "Could not o"
  | reading _ _ => "Error readi"
  | parsing none _ => "Could not p"
  | parsing (some _) _ => "Error parsi"

theorem take_messageIn (printable : Char → Bool) (reason : String) (stage : Stage) :
    (stage.messageIn printable reason).toList.take 11 = stage.lead.toList := by
  unfold messageIn lead
  cases stage with
  | argument | opening | reading =>
    unfold message
    simp
  | parsing line text => cases line <;> simp

theorem kind_of_lead {stage other : Stage} (same : stage.lead = other.lead) : stage.kind = other.kind := by
  rcases stage with _ | _ | _ | ⟨_ | _, _⟩ <;> rcases other with _ | _ | _ | ⟨_ | _, _⟩
  all_goals first | rfl | simp [lead] at same

variable {printable : Char → Bool} {reason otherReason : String}

theorem lead_of_messageIn {stage other : Stage}
    (same : stage.messageIn printable reason = other.messageIn printable otherReason) : stage.lead = other.lead := by
  rw [← String.toList_inj, ← take_messageIn printable reason, same, take_messageIn]

theorem argument_of_messageIn {text otherText : String}
    (same : (parsing none text).messageIn printable reason = (parsing none otherText).messageIn printable otherReason) :
    text = otherText ∧ reason = otherReason := by
  unfold messageIn at same
  simp only [← String.toList_inj, String.toList_append, String.toList_ofList, List.append_assoc] at same
  obtain ⟨texts, onward⟩ := Text.Quoted.encode_append_inj printable (List.append_cancel_left same)
  exact ⟨String.toList_inj.mp texts, String.toList_inj.mp (List.append_cancel_left onward)⟩

theorem line_of_messageIn {n m : Int} {text otherText : String}
    (same : (parsing (some n) text).messageIn printable reason =
      (parsing (some m) otherText).messageIn printable otherReason) :
    n = m ∧ text = otherText ∧ reason = otherReason := by
  have unspaced (n : Int) : ' ' ∉ (toString n).toList := (IntegerFormat.canonical_toString n).not_mem (by decide)
  have space : " (".toList = ' ' :: ['('] := rfl
  unfold messageIn at same
  simp only [← String.toList_inj, String.toList_append, String.toList_ofList, List.append_assoc, space,
    List.cons_append] at same
  have onward := List.append_cancel_left same
  -- The number is what stands before the first space; only then is the quoted text first on both sides.
  have cut := congrArg (List.splitOn ' ') onward
  rw [List.splitOn_append_cons_self_of_not_mem (unspaced n), List.splitOn_append_cons_self_of_not_mem (unspaced m)] at cut
  obtain rfl : n = m := IntegerFormat.toString_int_inj (List.cons.inj cut).1
  have after := (List.cons.inj (List.cons.inj (List.append_cancel_left onward)).2).2
  obtain ⟨texts, last⟩ := Text.Quoted.encode_append_inj printable after
  exact ⟨rfl, String.toList_inj.mp texts, String.toList_inj.mp (List.append_cancel_left last)⟩

/-- A failure to parse can be told in full from its diagnostic. -/
theorem parsing_of_messageIn {line : Option Int} {text : String} {other : Stage}
    (same : (parsing line text).messageIn printable reason = other.messageIn printable otherReason) :
    parsing line text = other ∧ reason = otherReason := by
  have leads := lead_of_messageIn same
  rcases line with _ | n <;> rcases other with _ | _ | _ | ⟨_ | m, otherText⟩
  case none.parsing.none =>
    obtain ⟨rfl, rfl⟩ := argument_of_messageIn same
    exact ⟨rfl, rfl⟩
  case some.parsing.some =>
    obtain ⟨rfl, rfl, rfl⟩ := line_of_messageIn same
    exact ⟨rfl, rfl⟩
  all_goals simp [lead] at leads

end Stage

namespace Failure

/-- The text of the cause in a failure's diagnostic. -/
def reason (failure : Failure) : String :=
  match failure.cause with
  | none => "None"
  | some cause => cause.describe.plain

theorem message_eq (failure : Failure) : failure.message = failure.stage.message failure.reason := by
  obtain ⟨stage, _ | cause⟩ := failure <;> simp [message, toFault, Fault.message, reason, Fault.describe]

/-- Two failures with one diagnostic are of the same kind; if a text could not be parsed, they agree on its line number,
on the text and on the text of the reason. This holds whatever characters stand for themselves in a quoted text and
however the cause is put into words. -/
theorem diagnostic_unambiguous (printable : Char → Bool) :
    (∀ (stage other : Stage) (reason otherReason : String),
      stage.messageIn printable reason = other.messageIn printable otherReason →
      stage.kind = other.kind ∧ (stage.kind = "PARSE_FAILED" → stage = other ∧ reason = otherReason)) ∧
    ∀ failure other : Failure, failure.message = other.message →
      failure.kind = other.kind ∧
        (failure.kind = "PARSE_FAILED" → failure.stage = other.stage ∧ failure.reason = other.reason) := by
  have told (printable : Char → Bool) (stage other : Stage) (reason otherReason : String)
      (same : stage.messageIn printable reason = other.messageIn printable otherReason) :
      stage.kind = other.kind ∧ (stage.kind = "PARSE_FAILED" → stage = other ∧ reason = otherReason) := by
    refine ⟨Stage.kind_of_lead (Stage.lead_of_messageIn same), fun unparsed => ?_⟩
    cases stage with
    | argument | opening | reading => simp [Stage.kind] at unparsed
    | parsing line text => exact Stage.parsing_of_messageIn same
  refine ⟨told printable, fun failure other same => ?_⟩
  rw [message_eq, message_eq, ← Stage.messageIn_isPrintable, ← Stage.messageIn_isPrintable] at same
  exact told Text.isPrintable _ _ _ _ same

/-- Two causes with the same words cannot be told apart, and neither can a path and a reason, since a path is not
quoted. -/
theorem diagnostic_unambiguous_quoted :
    let unopened := Stage.opening "a"
    let other := Stage.opening "a: b"
    let refused : Failure := ⟨.parsing (some 3) "it's", some (.integer .invalidDigit "it's")⟩
    let foreign : Failure := ⟨.parsing (some 3) "it's", some (.value "invalid digit found in string")⟩
    unopened.messageIn Char.isDigit "b: c" = other.messageIn Char.isDigit "c" ∧ unopened.kind = other.kind ∧
      refused.message = foreign.message ∧ refused.kind = "PARSE_FAILED" ∧
      refused.stage = foreign.stage ∧ refused.reason = foreign.reason := by
  intro unopened other refused foreign
  have paths : unopened.messageIn Char.isDigit "b: c" = other.messageIn Char.isDigit "c" := by decide +kernel
  have causes : refused.message = foreign.message := by
    rw [message_eq, message_eq]
    rfl
  obtain ⟨stages, failures⟩ := diagnostic_unambiguous Char.isDigit
  exact ⟨paths, (stages _ _ _ _ paths).1, causes, rfl, (failures refused foreign causes).2 rfl⟩

end Failure

end Linewise
