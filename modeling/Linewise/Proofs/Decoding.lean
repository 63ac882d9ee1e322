import Linewise.Encoding

/-! What reading bytes in a known text encoding can come to: a text, or bytes that are none. The codec alone
decides, also where there is nothing to read. -/
namespace Linewise

@[simp] theorem Text.Codec.decode_nil (codec : Text.Codec) : codec.decode [] = .ok [] := by
  cases codec with
  | utf16 order => cases order <;> rfl
  | utf32 order => cases order <;> rfl
  | utf7 =>
    simp only [decode, Utf7.decodeFrom]
    rfl
  | _ => rfl

theorem eq_ok_of_toOption {ε α : Type} {result : Except ε α} {value : α} (found : result.toOption = some value) :
    result = .ok value := by
  cases result with
  | error fault => cases found
  | ok other => cases found; rfl

namespace Encoding

/-- The name of an encoding in which texts are read. -/
def IsText (name : String) : Prop := ∃ codec, find name = .ok (.text codec)

theorem find_utf8 : find "utf-8" = .ok (.text .utf8) := eq_ok_of_toOption (by decide +kernel)

theorem not_contains_null_of_find {name : String} {encoding : Encoding} (found : find name = .ok encoding) :
    name.toList.contains '\x00' = false := by
  cases null : name.toList.contains '\x00' with
  | true => simp only [find, null, if_true, reduceCtorEq] at found
  | false => rfl

theorem decode_of_find {name : String} {codec : Text.Codec} (found : find name = .ok (.text codec))
    (bytes : List UInt8) :
    decode name bytes = ((codec.decode bytes).map String.ofList).mapError .undecodable := by
  have whole := not_contains_null_of_find found
  by_cases empty : bytes = []
  · subst empty
    simp only [decode, whole, Bool.false_eq_true, not_false_eq_true, and_true, if_true, Text.Codec.decode_nil]
    rfl
  · simp only [decode, empty, false_and, if_false, found]
    rfl

/-- Only bytes that are no text of the codec stop the reading. -/
theorem refused_of_decode_error {name : String} (known : IsText name) {bytes : List UInt8} {fault : Fault}
    (refused : decode name bytes = .error fault) :
    ∃ (codec : Text.Codec) (cause : Text.Undecodable), codec.decode bytes = .error cause ∧ fault = .undecodable cause := by
  obtain ⟨codec, found⟩ := known
  rw [decode_of_find found] at refused
  cases read : codec.decode bytes with
  | ok text =>
    rw [read] at refused
    cases refused
  | error cause =>
    rw [read] at refused
    cases refused
    exact ⟨codec, cause, read, rfl⟩

theorem undecodable_of_decode_error {name : String} (known : IsText name) {bytes : List UInt8} {fault : Fault}
    (refused : decode name bytes = .error fault) : ∃ cause, fault = .undecodable cause := by
  obtain ⟨-, cause, -, same⟩ := refused_of_decode_error known refused
  exact ⟨cause, same⟩

end Encoding

end Linewise
