import Linewise.Proofs.AcceptedSettings
import Linewise.Proofs.IntegerGrammar
import Mathlib.Data.List.DropRight

/-! Padded integers. White space around a line is no part of what is read from it, however much there is; the failure
still shows the line as it came. Zeros after the sign are part of it: they leave the value alone, but they count as
digits, and there is a limit to how many of these are converted. -/
namespace Linewise

namespace Text

/-- The text within the white space of a line: only white space stands around it, and none at its ends. -/
structure Within (line text : List Char) : Prop where
  cut : ∃ before after, line = before ++ text ++ after ∧ (∀ c ∈ before, isBlank c = true) ∧
    ∀ c ∈ after, isBlank c = true
  first : ∀ c, text.head? = some c → isBlank c = false
  last : ∀ c, text.getLast? = some c → isBlank c = false

/-- What is left of a line by trimming lies within its white space. -/
theorem within_trim (line : List Char) : Within line (trimRight (trimLeft line)) := by
  have inner : trimRight (trimLeft line) ++ (trimLeft line).rtakeWhile isBlank = trimLeft line :=
    List.rdropWhile_append_rtakeWhile
  refine ⟨⟨line.takeWhile isBlank, (trimLeft line).rtakeWhile isBlank, ?_, ?_, ?_⟩, ?_, ?_⟩
  · rw [List.append_assoc, inner]
    exact List.takeWhile_append_dropWhile.symm
  · exact fun c => List.mem_takeWhile_imp
  · exact fun c => List.mem_rtakeWhile_imp
  · intro c starts
    -- What is cut off at the end leaves the start as it is.
    have whole : (line.dropWhile isBlank).head? = some c := by
      rw [← trimLeft, ← inner, List.head?_append, starts]
      rfl
    have solid := List.head?_dropWhile_not isBlank line
    rwa [whole] at solid
  · intro c ends
    have filled : trimRight (trimLeft line) ≠ [] := by
      intro none
      rw [none] at ends
      cases ends
    have solid := List.rdropWhile_last_not isBlank (trimLeft line) filled
    have same : (trimRight (trimLeft line)).getLast filled = c := (List.getLast_eq_iff_getLast?_eq_some filled).mpr ends
    rw [← same]
    exact Bool.eq_false_iff.mpr solid

theorem dropWhile_blank {before rest : List Char} (blank : ∀ c ∈ before, isBlank c = true)
    (solid : ∀ c, rest.head? = some c → isBlank c = false) : (before ++ rest).dropWhile isBlank = rest := by
  rw [List.dropWhile_append_of_pos blank]
  cases rest with
  | nil => rfl
  | cons c rest => rw [List.dropWhile_cons, solid c rfl]; rfl

/-- There is one text within the white space of a line, and trimming finds it. -/
theorem Within.eq_trim {line text : List Char} (within : Within line text) : trimRight (trimLeft line) = text := by
  obtain ⟨before, after, rfl, blankBefore, blankAfter⟩ := within.cut
  by_cases empty : text = []
  · -- A line of nothing but white space is used up from the left.
    subst empty
    have all : ∀ c ∈ before ++ [] ++ after, isBlank c = true := by
      intro c member
      rw [List.append_nil] at member
      exact (List.mem_append.mp member).elim (blankBefore c) (blankAfter c)
    rw [trimLeft, List.dropWhile_eq_nil_iff.mpr all]
    rfl
  · have start : ∀ c, (text ++ after).head? = some c → isBlank c = false := by
      rw [List.head?_append_of_ne_nil text empty]
      exact within.first
    have finish : ∀ c, text.reverse.head? = some c → isBlank c = false := by
      rw [List.head?_reverse]
      exact within.last
    have blank : ∀ c ∈ after.reverse, isBlank c = true := fun c member => blankAfter c (List.mem_reverse.mp member)
    rw [trimLeft, List.append_assoc, dropWhile_blank blankBefore start, trimRight, List.reverse_append,
      dropWhile_blank blank finish, List.reverse_reverse]

theorem within_iff {line text : String} : Within line.toList text.toList ↔ trim line = text := by
  constructor
  · intro within
    rw [trim, within.eq_trim, String.ofList_toList]
  · rintro rfl
    rw [trim, String.toList_ofList]
    exact within_trim line.toList

/-- More white space around a line leaves the text within. -/
theorem Within.padded {line text before after : List Char} (within : Within line text)
    (blankBefore : ∀ c ∈ before, isBlank c = true) (blankAfter : ∀ c ∈ after, isBlank c = true) :
    Within (before ++ line ++ after) text := by
  obtain ⟨early, late, rfl, blankEarly, blankLate⟩ := within.cut
  refine ⟨⟨before ++ early, late ++ after, by simp, ?_, ?_⟩, within.first, within.last⟩
  · exact fun c member => (List.mem_append.mp member).elim (blankBefore c) (blankEarly c)
  · exact fun c member => (List.mem_append.mp member).elim (blankLate c) (blankAfter c)

theorem trim_padded {line before after : String} (blankBefore : ∀ c ∈ before.toList, isBlank c = true)
    (blankAfter : ∀ c ∈ after.toList, isBlank c = true) : trim (before ++ line ++ after) = trim line := by
  apply within_iff.mp
  rw [String.toList_append, String.toList_append]
  exact (within_iff.mpr rfl).padded blankBefore blankAfter

theorem not_blank_of_isDigit {c : Char} (digit : c.isDigit = true) : isBlank c = false := by
  simp only [Char.isDigit, Bool.and_eq_true, decide_eq_true_eq] at digit
  have lower : 0x30 ≤ c.toNat := digit.1
  have upper : c.toNat ≤ 0x39 := digit.2
  simp only [isBlank, Bool.or_eq_false_iff, Bool.and_eq_false_iff, decide_eq_false_iff_not, beq_eq_false_iff_ne]
  omega

end Text

namespace IntegerFormat

variable {type : IntegerFormat}

/-- No literal holds white space. -/
theorem not_blank_of_read {signed : Bool} {text : List Char} {literal : Literal}
    (read : Literal.read? signed text = some literal) {c : Char} (member : c ∈ text) : Text.isBlank c = false := by
  obtain ⟨decimal, shape⟩ := Literal.read?_cases read
  have solid (inside : c ∈ literal.digits) : Text.isBlank c = false :=
    Text.not_blank_of_isDigit (decimal.digit c inside)
  rcases shape with ⟨rfl, -⟩ | ⟨rfl, -⟩ | ⟨rfl, -, -⟩
  · exact solid member
  · exact (List.mem_cons.mp member).elim (fun sign => sign ▸ by decide) solid
  · exact (List.mem_cons.mp member).elim (fun sign => sign ▸ by decide) solid

theorem parse_of_blank {text : String} {c : Char} (member : c ∈ text.toList) (blank : Text.isBlank c = true) :
    type.parse text = .error (.integer .invalidDigit text) := by
  have filled : text ≠ "" := by
    rintro rfl
    cases member
  have unread : Literal.read? type.signed text.toList = none := by
    rw [Option.eq_none_iff_forall_ne_some]
    intro literal read
    rw [not_blank_of_read read member] at blank
    cases blank
  rw [parse, if_neg filled, unread]

theorem parse_of_long {text : String} {literal : Literal}
    (read : Literal.read? type.signed text.toList = some literal) (long : digitLimit < literal.digits.length) :
    type.parse text = .error (tooLong literal.digits.length) := by
  simp only [parse, ne_empty_of_read read, if_false, read, long, if_true]

/-- Why a text is turned down: for a flaw, which is reported with that text, or for more digits than are converted. -/
inductive Refused (text : String) : Fault → Prop
  | flawed (flaw : IntegerFlaw) : Refused text (.integer flaw text)
  | long (count : Nat) : Refused text (tooLong count)

theorem refused_of_parse {text : String} {fault : Fault} {bound : Nat} (bounded : type.bound = .ok bound)
    (parsed : type.parse text = .error fault) : Refused text fault := by
  cases read : Literal.read? type.signed text.toList with
  | none =>
    unfold parse at parsed
    rw [read] at parsed
    split at parsed <;> cases parsed <;> exact .flawed _
  | some literal =>
    by_cases long : digitLimit < literal.digits.length
    · rw [parse_of_long read long] at parsed
      cases parsed
      exact .long _
    · rw [parse_of_read read (Nat.not_lt.mp long) bounded] at parsed
      split at parsed
      · cases parsed
        exact .flawed _
      split at parsed <;> cases parsed
      exact .flawed _

/-- Answers to two texts that do not tell them apart: the same value, or the same flaw. -/
inductive Alike : Except Fault Int → Except Fault Int → Prop
  | value (n : Int) : Alike (.ok n) (.ok n)
  | flaw (flaw : IntegerFlaw) (text other : String) : Alike (.error (.integer flaw text)) (.error (.integer flaw other))

/-- The sign of a literal is that of its text, whatever the digits. -/
theorem exists_sign {signed : Bool} {sign : List Char} {factor : Int} (leading : Sign signed sign factor) :
    ∃ negative, ∀ digits, IsDecimal digits → Literal.read? signed (sign ++ digits) = some ⟨negative, digits⟩ := by
  cases leading with
  | none => exact ⟨false, fun digits decimal => Literal.read?_of_isDecimal signed decimal⟩
  | plus => exact ⟨false, fun digits decimal => Literal.ofDigits?_eq_some_iff.mpr ⟨decimal, rfl⟩⟩
  | minus known =>
    exact ⟨true, fun digits decimal => (if_pos known).trans (Literal.ofDigits?_eq_some_iff.mpr ⟨decimal, rfl⟩)⟩

/-- Digits with zeros in front of them. -/
def zeroPadded (count : Nat) (digits : List Char) : List Char := List.replicate count '0' ++ digits

@[simp] theorem length_zeroPadded (count : Nat) (digits : List Char) :
    (zeroPadded count digits).length = count + digits.length := by
  simp [zeroPadded]

theorem isDecimal_zeroPadded (count : Nat) {digits : List Char} (decimal : IsDecimal digits) :
    IsDecimal (zeroPadded count digits) := by
  refine ⟨by simp [zeroPadded, decimal.filled], ?_⟩
  intro c member
  rcases List.mem_append.mp member with zero | digit
  · rw [List.eq_of_mem_replicate zero]
    rfl
  · exact decimal.digit c digit

theorem ofDigitChars_zeroPadded (count : Nat) (digits : List Char) :
    Nat.ofDigitChars 10 (zeroPadded count digits) 0 = Nat.ofDigitChars 10 digits 0 := by
  induction count with
  | zero => rfl
  | succ count ih =>
    rw [zeroPadded, List.replicate_succ, List.cons_append, Nat.ofDigitChars_cons]
    exact ih

/-- Literals of one value are not told apart, as long as both are converted. -/
theorem alike_of_value {bound : Nat} (bounded : type.bound = .ok bound) {text other : String} {first second : Literal}
    (readFirst : Literal.read? type.signed text.toList = some first) (shortFirst : first.digits.length ≤ digitLimit)
    (readSecond : Literal.read? type.signed other.toList = some second)
    (shortSecond : second.digits.length ≤ digitLimit) (same : first.value = second.value) :
    Alike (type.parse text) (type.parse other) := by
  rw [parse_of_read readFirst shortFirst bounded, parse_of_read readSecond shortSecond bounded, same]
  split
  · exact .flaw _ _ _
  split
  · exact .flaw _ _ _
  · exact .value _

/-- Zeros after the sign do not tell a text from the one without them just as long as all its digits are converted. With
more digits than that a text is turned down for their number, whatever its value. -/
theorem zeros_ignored_iff_converted (offered : type ∈ IntegerFormat.offered) {sign digits : List Char} {factor : Int}
    (leading : Sign type.signed sign factor) (decimal : IsDecimal digits) (count : Nat) :
    let text := String.ofList (sign ++ digits)
    let padded := String.ofList (sign ++ List.replicate count '0' ++ digits)
    (Alike (type.parse padded) (type.parse text) ↔ count + digits.length ≤ digitLimit) ∧
      (digitLimit < count + digits.length → type.parse padded = .error (tooLong (count + digits.length))) := by
  intro text padded
  obtain ⟨bound, bounded⟩ := bounded_of_offered offered
  obtain ⟨negative, reads⟩ := exists_sign leading
  have read : Literal.read? type.signed text.toList = some ⟨negative, digits⟩ := by
    rw [String.toList_ofList]
    exact reads digits decimal
  have readPadded : Literal.read? type.signed padded.toList = some ⟨negative, zeroPadded count digits⟩ := by
    rw [String.toList_ofList, List.append_assoc]
    exact reads _ (isDecimal_zeroPadded count decimal)
  have refused (long : digitLimit < count + digits.length) :
      type.parse padded = .error (tooLong (count + digits.length)) := by
    have size := length_zeroPadded count digits
    rw [parse_of_long readPadded (size ▸ long), size]
  refine ⟨⟨?_, ?_⟩, refused⟩
  · intro alike
    by_contra long
    rw [refused (Nat.not_le.mp long)] at alike
    cases alike
  · intro short
    have same : Literal.value ⟨negative, zeroPadded count digits⟩ = Literal.value ⟨negative, digits⟩ := by
      simp only [Literal.value, ofDigitChars_zeroPadded]
    exact alike_of_value bounded readPadded (by simpa using short) read (by simp only; omega) same

/-- Two zeros before `42` change nothing; a zero with as many before it as can be converted is a digit too long. -/
theorem zeros_ignored_iff_converted_last :
    i64 ∈ offered ∧ u32 ∈ offered ∧ Sign i64.signed ['-'] (-1) ∧ Sign u32.signed [] 1 ∧ IsDecimal ['4', '2'] ∧
      IsDecimal ['0'] ∧ Alike (i64.parse "-0042") (i64.parse "-42") ∧
      ¬ Alike (u32.parse (String.ofList (List.replicate 4300 '0' ++ ['0']))) (u32.parse "0") ∧
      u32.parse (String.ofList (List.replicate 4300 '0' ++ ['0'])) = .error (tooLong 4301) := by
  have wide : i64 ∈ offered := by decide
  have narrow : u32 ∈ offered := by decide
  have minus : Sign i64.signed ['-'] (-1) := .minus rfl
  have number : IsDecimal ['4', '2'] := ⟨by decide, List.all_eq_true.mp (by decide)⟩
  have zero : IsDecimal ['0'] := ⟨by decide, List.all_eq_true.mp (by decide)⟩
  have fewer := zeros_ignored_iff_converted wide minus number 2
  have more := zeros_ignored_iff_converted narrow .none zero 4300
  refine ⟨wide, narrow, minus, .none, number, zero, fewer.1.mpr (by decide), ?_, more.2 (by decide)⟩
  exact fun alike => absurd (more.1.mp alike) (by decide)

end IntegerFormat

namespace Transform

variable {name : String} {transform : Transform}

/-- What an offered transform makes of a line is what it makes of the text within the white space of that line. -/
theorem apply_padded (found : find name = .ok transform) {before after : String} (line : String)
    (blankBefore : ∀ c ∈ before.toList, Text.isBlank c = true) (blankAfter : ∀ c ∈ after.toList, Text.isBlank c = true) :
    transform.apply (before ++ line ++ after) = transform.apply line := by
  obtain ⟨type, bound, rfl, -⟩ := integer_of_find found
  simp only [integer, if_true, Text.trim_padded blankBefore blankAfter]

/-- A flaw is one of the text within the white space of a line. -/
theorem within_of_apply (found : find name = .ok transform) {line text : String} {flaw : IntegerFlaw}
    (refused : transform.apply line = .error (.integer flaw text)) : Text.Within line.toList text.toList := by
  obtain ⟨type, bound, rfl, bounded⟩ := integer_of_find found
  cases IntegerFormat.refused_of_parse bounded (eq_error_of_map_error refused) with
  | flawed => exact Text.within_iff.mpr rfl

theorem apply_of_blank (found : find name = .ok transform) {line text : String} {c : Char}
    (within : Text.Within line.toList text.toList) (member : c ∈ text.toList) (blank : Text.isBlank c = true) :
    transform.apply line = .error (.integer .invalidDigit text) := by
  obtain ⟨type, bound, rfl, -⟩ := integer_of_find found
  simp only [integer, if_true, Text.within_iff.mp within, IntegerFormat.parse_of_blank member blank]
  rfl

/-- White space around a line changes nothing about what an offered transform makes of it. Either both lines have the
same value, or both fail to parse for the same cause, and each failure shows its own line; a flaw is reported with the
text within the white space. White space inside that text is always an invalid digit. -/
theorem padding_ignored (found : find name = .ok transform) (number : Option Int) (line : String)
    {before after : String} (blankBefore : ∀ c ∈ before.toList, Text.isBlank c = true)
    (blankAfter : ∀ c ∈ after.toList, Text.isBlank c = true) :
    let padded := before ++ line ++ after
    ((∃ value, run (some transform) number line = .ok value ∧ run (some transform) number padded = .ok value) ∨
      ∃ cause, run (some transform) number line = .error (.failed (.parsing number line) (some cause)) ∧
        run (some transform) number padded = .error (.failed (.parsing number padded) (some cause)) ∧
        ∀ flaw text, cause = .integer flaw text → Text.Within line.toList text.toList) ∧
    ∀ text c, Text.Within line.toList text.toList → c ∈ text.toList → Text.isBlank c = true →
      run (some transform) number line =
        .error (.failed (.parsing number line) (some (.integer .invalidDigit text))) := by
  intro padded
  have same : transform.apply padded = transform.apply line := apply_padded found line blankBefore blankAfter
  have fails {other : String} {cause : Fault} (refused : transform.apply other = .error cause) :
      run (some transform) number other = .error (.failed (.parsing number other) (some cause)) :=
    run_declared number refused (declares_of_find found refused).2
  refine ⟨?_, ?_⟩
  · cases made : transform.apply line with
    | ok value => exact .inl ⟨value, run_made number made, run_made number (same.trans made)⟩
    | error cause =>
      refine .inr ⟨cause, fails made, fails (same.trans made), ?_⟩
      rintro flaw text rfl
      exact within_of_apply found made
  · intro text c within member blank
    exact fails (apply_of_blank found within member blank)

/-- Digits with a space between them, and other kinds of white space around them: the failure shows the line as it came,
and its cause the text without what is around it. -/
theorem padding_ignored_split :
    let padded := "\u3000\t7 8\u2028"
    find "u64" = .ok (.integer .u64 true) ∧ (∀ c ∈ "\u3000\t".toList, Text.isBlank c = true) ∧
      (∀ c ∈ "\u2028".toList, Text.isBlank c = true) ∧
      run (some (.integer .u64 true)) (some 3) padded =
        .error (.failed (.parsing (some 3) padded) (some (.integer .invalidDigit "7 8"))) := by
  intro padded
  have found : find "u64" = .ok (.integer .u64 true) := rfl
  have before : ∀ c ∈ "\u3000\t".toList, Text.isBlank c = true := List.all_eq_true.mp (by decide +kernel)
  have after : ∀ c ∈ "\u2028".toList, Text.isBlank c = true := List.all_eq_true.mp (by decide +kernel)
  refine ⟨found, before, after, ?_⟩
  obtain ⟨alike, inside⟩ := padding_ignored found (some 3) "7 8" before after
  have split := inside "7 8" ' ' (Text.within_iff.mpr (by decide +kernel)) (by decide +kernel) (by decide)
  rcases alike with ⟨value, valued, -⟩ | ⟨cause, failed, shown, -⟩
  · cases split.symm.trans valued
  · cases split.symm.trans failed
    exact shown

end Transform

end Linewise
