import Linewise.Proofs.ControlSequences
import Linewise.Proofs.IntegerText
import Linewise.Proofs.QuotedText
import Linewise.Proofs.SettingsPriority
import Linewise.Text.Codec

/-! The line breaks of a text. Numbers and quoted texts have none, and neither has the message for bytes that are no
text, whatever codec it comes from. Removing control sequences keeps the line breaks as they are. -/
namespace Linewise.Text

/-- Does a text go on in a new line after this character? -/
def isLineBreak (c : Char) : Bool :=
  let n := c.toNat
  (0x0A ≤ n && n ≤ 0x0D) || (0x1C ≤ n && n ≤ 0x1E) || n == 0x85 || n == 0x2028 || n == 0x2029

/-- The line breaks of a text, in order. -/
def lineBreaks (text : List Char) : List Char := text.filter isLineBreak

/-- One line, and the line feed that ends it. -/
def IsLine (text : List Char) : Prop := ∃ line, text = line ++ ['\n'] ∧ lineBreaks line = []

@[simp] theorem lineBreaks_append (text rest : List Char) :
    lineBreaks (text ++ rest) = lineBreaks text ++ lineBreaks rest := List.filter_append ..

theorem lineBreaks_eq_nil {text : List Char} (unbroken : ∀ c ∈ text, isLineBreak c = false) : lineBreaks text = [] :=
  List.filter_eq_nil_iff.mpr fun c member breaks => by
    rw [unbroken c member] at breaks
    cases breaks

theorem isLine_concat_iff {text : List Char} : IsLine (text ++ ['\n']) ↔ lineBreaks text = [] := by
  constructor
  · rintro ⟨line, same, unbroken⟩
    exact List.append_cancel_right same ▸ unbroken
  · intro unbroken
    exact ⟨text, rfl, unbroken⟩

theorem isLineBreak_of_ascii {c : Char} (low : 0x20 ≤ c.toNat) (high : c.toNat < 0x7F) : isLineBreak c = false := by
  simp only [isLineBreak, Bool.or_eq_false_iff, Bool.and_eq_false_iff, decide_eq_false_iff_not, beq_eq_false_iff_ne]
  omega

/-- No line break is printable. -/
theorem isLineBreak_of_isPrintable {c : Char} (printable : isPrintable c = true) : isLineBreak c = false := by
  have codes : ∀ n ∈ [0x0A, 0x0B, 0x0C, 0x0D, 0x1C, 0x1D, 0x1E, 0x85, 0x2028, 0x2029],
      (!isPrintable (Char.ofNat n)) = true := List.all_eq_true.mp (by decide +kernel)
  by_contra breaks
  simp only [isLineBreak, Bool.not_eq_false, Bool.or_eq_true, Bool.and_eq_true, decide_eq_true_eq, beq_iff_eq] at breaks
  have code := codes c.toNat (by simp only [List.mem_cons]; omega)
  rw [Char.ofNat_toNat, printable] at code
  cases code

@[simp] theorem lineBreaks_quote (text : String) : lineBreaks (quote text).toList = [] := by
  refine lineBreaks_eq_nil fun c member => ?_
  rw [quote, String.toList_ofList] at member
  rcases Quoted.shown_of_mem_encode member with printable | ⟨low, high⟩
  · exact isLineBreak_of_isPrintable printable
  · exact isLineBreak_of_ascii low high

@[simp] theorem lineBreaks_int (n : Int) : lineBreaks (toString n).toList = [] := by
  refine lineBreaks_eq_nil fun c member => ?_
  obtain ⟨low, high⟩ := (IntegerFormat.canonical_toString n).char_bounds member
  exact isLineBreak_of_ascii (by omega) (by omega)

@[simp] theorem lineBreaks_nat (n : Nat) : lineBreaks (toString n).toList = [] := lineBreaks_int n

@[simp] theorem lineBreaks_hexDigits (width n : Nat) : lineBreaks (hexDigits width n) = [] := by
  refine lineBreaks_eq_nil fun c member => ?_
  obtain ⟨digit, small, rfl⟩ := exists_of_mem_hexDigits member
  have digits : ∀ digit : Fin 16, isLineBreak (hexDigit digit) = false := by decide
  exact digits ⟨digit, small⟩

/-- No line break is in a control sequence. -/
theorem IsSequence.lineBreaks_eq {s : List Char} (isSequence : IsSequence s) : lineBreaks s = [] := by
  refine lineBreaks_eq_nil fun c member => ?_
  rcases isSequence.char member with rfl | ⟨low, high⟩
  · rfl
  · exact isLineBreak_of_ascii (by omega) (by omega)

theorem lineBreaks_strip (text : List Char) : lineBreaks (stripFrom 0 text) = lineBreaks text := by
  induction text using sequence_induction with
  | empty => rfl
  | sequence s after isSequence ih =>
    rw [strip_sequence isSequence, lineBreaks_append, isSequence.lineBreaks_eq, List.nil_append, ih]
  | other c rest found ih =>
    rw [strip_cons found]
    unfold lineBreaks at ih ⊢
    rw [List.filter_cons, List.filter_cons, ih]

/-- The names of codecs, and their words for what is wrong with bytes that are no text. -/
def codecWords : List String := [
  "utf-8", "utf7", "ascii", "latin-1", "charmap", "utf-16-le", "utf-16-be", "utf-32-le", "utf-32-be",
  "invalid start byte", "invalid continuation byte", "unexpected end of data", "truncated data", "illegal encoding",
  "illegal UTF-16 surrogate", "code point in surrogate code point range", "code point not in range(0x110000)",
  "unterminated shift sequence", "partial character in shift sequence", "non-zero padding bits in shift sequence",
  "illegal surrogate", "ill-formed sequence", "unexpected special character", "ordinal not in range(128)", "",
  "character maps to <undefined>"]

theorem lineBreaks_of_mem_codecWords {words : String} (member : words ∈ codecWords) : lineBreaks words.toList = [] := by
  have unbroken : codecWords.all (fun words => (lineBreaks words.toList).isEmpty) = true := by decide +kernel
  exact List.isEmpty_iff.mp (List.all_eq_true.mp unbroken words member)

theorem exists_of_mapError_error {ε δ α : Type} {change : ε → δ} {result : Except ε α} {fault : δ}
    (failed : result.mapError change = .error fault) : ∃ inner, result = .error inner ∧ change inner = fault := by
  cases result with
  | ok value => cases failed
  | error inner => exact ⟨inner, rfl, Except.error.inj failed⟩

section

variable {pos : Nat} {bytes : List UInt8} {flaw : Flaw}

theorem Utf8.reason_mem (refused : decodeFrom pos bytes = .error flaw) : flaw.reason ∈ codecWords := by
  fun_induction decodeFrom pos bytes
  -- Each branch goes on with the rest of the bytes, or ends with words of its own.
  all_goals first
    | exact ‹decodeFrom _ _ = .error flaw → _› (eq_error_of_map_error refused)
    | (cases refused <;> simp [codecWords, badStart, badTail, cutOff])

theorem Utf16.reason_mem {order : ByteOrder} (refused : decodeFrom order pos bytes = .error flaw) :
    flaw.reason ∈ codecWords := by
  fun_induction decodeFrom order pos bytes
  all_goals first
    | exact ‹decodeFrom _ _ _ = .error flaw → _› (eq_error_of_map_error refused)
    | (cases refused <;> simp [codecWords])

theorem Utf32.reason_mem {order : ByteOrder} (refused : decodeFrom order pos bytes = .error flaw) :
    flaw.reason ∈ codecWords := by
  fun_induction decodeFrom order pos bytes
  all_goals first
    | exact ‹decodeFrom _ _ _ = .error flaw → _› (eq_error_of_map_error refused)
    | (cases refused <;> simp [codecWords])

theorem Codec.reason_mem_of_decodeTable {char? : UInt8 → Option Char} {reason : String} (known : reason ∈ codecWords)
    (refused : decodeTable char? reason pos bytes = .error flaw) : flaw.reason ∈ codecWords := by
  induction bytes generalizing pos with
  | nil => cases refused
  | cons b rest ih =>
    unfold decodeTable at refused
    split at refused
    · exact ih (eq_error_of_map_error refused)
    · cases refused
      exact known

end

namespace Utf7

variable {pos : Nat} {flaw : Flaw}

theorem reason_mem_of_plain {b : UInt8} {next : Option UInt8} (found : plain pos b next = .flawed flaw) :
    flaw.reason ∈ codecWords := by
  unfold plain at found
  split at found
  · split at found
    · cases found
    · split at found
      · cases found
      split at found <;> cases found
      simp [codecWords]
  split at found <;> cases found
  simp [codecWords]

theorem reason_mem_of_openEnd {run : Run} (found : run.openEnd pos = some flaw) : flaw.reason ∈ codecWords := by
  unfold Run.openEnd at found
  split at found
  · cases found
    simp [codecWords]
  split at found
  · cases found
    simp [codecWords]
  split at found <;> cases found
  simp [codecWords]

theorem reason_mem_of_outside {b : UInt8} {rest : List UInt8}
    (later : ∀ {pos : Nat} {run : Option Run} {bytes : List UInt8}, bytes.length ≤ rest.length →
      decodeFrom pos run bytes = .error flaw → flaw.reason ∈ codecWords)
    (refused : decodeFrom.outside pos b rest = .error flaw) : flaw.reason ∈ codecWords := by
  unfold decodeFrom.outside at refused
  split at refused
  · exact later le_rfl (eq_error_of_map_error refused)
  · exact later le_rfl refused
  next found =>
    cases refused
    exact reason_mem_of_plain found
  · split at refused
    · cases refused
    · exact later (by simp) (eq_error_of_map_error refused)

theorem reason_mem {run : Option Run} {bytes : List UInt8} (refused : decodeFrom pos run bytes = .error flaw) :
    flaw.reason ∈ codecWords := by
  -- A plus sign followed by a minus sign takes two bytes at once, so the induction is on how many bytes are left.
  induction size : bytes.length using Nat.strongRecOn generalizing pos run bytes with
  | _ length ih =>
    subst size
    cases bytes with
    | nil =>
      unfold decodeFrom at refused
      cases run with
      | none => cases refused
      | some run =>
        simp only at refused
        split at refused <;> cases refused
        simp [codecWords]
    | cons b rest =>
      have later {pos : Nat} {run : Option Run} {bytes : List UInt8} (shorter : bytes.length ≤ rest.length)
          (refused : decodeFrom pos run bytes = .error flaw) : flaw.reason ∈ codecWords :=
        ih bytes.length (Nat.lt_succ_of_le shorter) refused rfl
      unfold decodeFrom at refused
      cases run with
      | none => exact reason_mem_of_outside later refused
      | some run =>
        simp only at refused
        split at refused
        · split at refused
          · exact later le_rfl refused
          · exact later le_rfl (eq_error_of_map_error refused)
          · cases refused
            simp [codecWords]
        · split at refused
          next found =>
            cases refused
            exact reason_mem_of_openEnd found
          · split at refused
            · exact later le_rfl refused
            · exact reason_mem_of_outside later refused

end Utf7

/-- Every codec says in fixed words, and under a fixed name, why bytes are no text of it. -/
theorem Codec.words_of_decode {codec : Codec} {bytes : List UInt8} {cause : Undecodable}
    (refused : codec.decode bytes = .error cause) : cause.codec ∈ codecWords ∧ cause.flaw.reason ∈ codecWords := by
  have wide (order : ByteOrder) : wideName "16" order ∈ codecWords ∧ wideName "32" order ∈ codecWords := by
    cases order <;> decide
  unfold decode at refused
  -- The cases stand in the order of the codecs; the two wide ones have one case more, for a byte order that is announced.
  split at refused
  case h_1 | h_2 =>
    obtain ⟨flaw, broken, rfl⟩ := exists_of_mapError_error refused
    exact ⟨by simp [codecWords], Utf8.reason_mem broken⟩
  case h_3 =>
    obtain ⟨flaw, broken, rfl⟩ := exists_of_mapError_error refused
    exact ⟨by simp [codecWords], Utf7.reason_mem broken⟩
  case h_4 | h_5 | h_6 =>
    obtain ⟨flaw, broken, rfl⟩ := exists_of_mapError_error refused
    exact ⟨by simp [codecWords], reason_mem_of_decodeTable (by simp [codecWords]) broken⟩
  case h_7 | h_8 =>
    obtain ⟨flaw, broken, rfl⟩ := exists_of_mapError_error refused
    exact ⟨(wide _).1, Utf16.reason_mem broken⟩
  case h_9 | h_10 =>
    obtain ⟨flaw, broken, rfl⟩ := exists_of_mapError_error refused
    exact ⟨(wide _).2, Utf32.reason_mem broken⟩

theorem Undecodable.lineBreaks_message {cause : Undecodable} (name : lineBreaks cause.codec.toList = [])
    (words : lineBreaks cause.flaw.reason.toList = []) : lineBreaks cause.message.toList = [] := by
  have span : lineBreaks (message.span cause).toList = [] := by
    unfold message.span
    simp only [String.toList_append, lineBreaks_append, lineBreaks_nat, lineBreaks_int, List.append_nil]
    decide +kernel
  unfold message
  simp only [String.toList_append, lineBreaks_append, name, words, List.append_nil, List.append_eq_nil_iff]
  refine ⟨⟨by decide +kernel, ?_⟩, by decide +kernel⟩
  split
  · split
    · simp only [String.toList_append, String.toList_ofList, lineBreaks_append, lineBreaks_nat, lineBreaks_hexDigits,
        List.append_nil]
      decide +kernel
    · exact span
  · exact span

end Linewise.Text
