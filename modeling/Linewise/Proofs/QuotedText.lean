import Linewise.Text.Quoted
import Mathlib.Tactic.Common

/-! Quoted texts, for any choice of the characters that stand for themselves. A quoted text says where it ends: whatever
stands after it, the text and the rest can be told from the whole. And it holds characters only that can be shown. -/
namespace Linewise.Text

theorem hexValue?_hexDigit {n : Nat} (small : n < 16) : hexValue? (hexDigit n) = some n := by
  have digits : ∀ digit : Fin 16, hexValue? (hexDigit digit) = some digit.val := by decide
  exact digits ⟨n, small⟩

@[simp] theorem length_hexDigits (width n : Nat) : (hexDigits width n).length = width := by
  induction width generalizing n with
  | zero => rfl
  | succ width ih => simp [hexDigits, ih]

theorem hexNumber?_concat {digits : List Char} {c : Char} {n digit : Nat} (before : hexNumber? digits = some n)
    (last : hexValue? c = some digit) : hexNumber? (digits ++ [c]) = some (n * 16 + digit) := by
  unfold hexNumber? at before ⊢
  rw [List.foldl_append, before]
  simp only [List.foldl_cons, List.foldl_nil, last]
  rfl

/-- A number is read back from its digits, if there are enough of them. -/
theorem hexNumber?_hexDigits {width n : Nat} (fits : n < Nat.pow 16 width) :
    hexNumber? (hexDigits width n) = some n := by
  induction width generalizing n with
  | zero =>
    obtain rfl : n = 0 := Nat.lt_one_iff.mp fits
    rfl
  | succ width ih =>
    have grown : Nat.pow 16 (width + 1) = Nat.pow 16 width * 16 := rfl
    have before := ih (n := n / 16) (by omega)
    rw [hexDigits, hexNumber?_concat before (hexValue?_hexDigit (Nat.mod_lt n (by decide)))]
    congr 1
    omega

theorem exists_of_mem_hexDigits {width n : Nat} {c : Char} (member : c ∈ hexDigits width n) :
    ∃ digit < 16, c = hexDigit digit := by
  induction width generalizing n with
  | zero => cases member
  | succ width ih =>
    rcases List.mem_append.mp member with early | last
    · exact ih early
    · exact ⟨n % 16, Nat.mod_lt n (by decide), List.mem_singleton.mp last⟩

namespace Quoted

def decodeHex (width : Nat) (text : List Char) : Option (Char × List Char) :=
  (hexNumber? (text.take width)).map fun n => (Char.ofNat n, text.drop width)

/-- The character that stands after a backslash. -/
def decodeEscape : List Char → Option (Char × List Char)
  | [] => none
  | 'n' :: rest => some ('\n', rest)
  | 'r' :: rest => some ('\r', rest)
  | 't' :: rest => some ('\t', rest)
  | 'x' :: rest => decodeHex 2 rest
  | 'u' :: rest => decodeHex 4 rest
  | 'U' :: rest => decodeHex 8 rest
  | c :: rest => some (c, rest)

/-- The character that the inside of a quoted text starts with, and what follows. -/
def decodeChar : List Char → Option (Char × List Char)
  | [] => none
  | c :: rest => if c = '\\' then decodeEscape rest else some (c, rest)

theorem decodeHex_hexDigits {width : Nat} {c : Char} (fits : c.toNat < Nat.pow 16 width) (rest : List Char) :
    decodeHex width (hexDigits width c.toNat ++ rest) = some (c, rest) := by
  have size := length_hexDigits width c.toNat
  rw [decodeHex, List.take_left' size, List.drop_left' size, hexNumber?_hexDigits fits, Option.map_some,
    Char.ofNat_toNat]

/-- An escape is a letter that says how many digits follow, and as many digits. -/
theorem escape_cases (c : Char) :
    ∃ letter width, escape c = '\\' :: letter :: hexDigits width c.toNat ∧ c.toNat < Nat.pow 16 width ∧
      (letter = 'x' ∧ width = 2 ∨ letter = 'u' ∧ width = 4 ∨ letter = 'U' ∧ width = 8) := by
  have most : c.toNat < 0x110000 := by
    rcases c.valid with low | ⟨-, high⟩
    · exact Nat.lt_trans low (by decide)
    · exact high
  by_cases byte : c.toNat < 0x100
  · exact ⟨'x', 2, if_pos byte, byte, .inl ⟨rfl, rfl⟩⟩
  by_cases basic : c.toNat < 0x10000
  · exact ⟨'u', 4, (if_neg byte).trans (if_pos basic), basic, .inr (.inl ⟨rfl, rfl⟩)⟩
  · exact ⟨'U', 8, (if_neg byte).trans (if_neg basic), Nat.lt_trans most (by decide), .inr (.inr ⟨rfl, rfl⟩)⟩

theorem decodeChar_escape (c : Char) (rest : List Char) : decodeChar (escape c ++ rest) = some (c, rest) := by
  obtain ⟨letter, width, written, fits, sort⟩ := escape_cases c
  have read := decodeHex_hexDigits fits rest
  rw [written]
  rcases sort with ⟨rfl, rfl⟩ | ⟨rfl, rfl⟩ | ⟨rfl, rfl⟩ <;> exact read

section

variable (printable : Char → Bool) {delimiter : Char} (quoting : delimiter = '\'' ∨ delimiter = '"')

include quoting

/-- Each character is read back from what is written for it, whatever follows. -/
theorem decodeChar_encodeChar (c : Char) (rest : List Char) :
    decodeChar (encodeChar printable delimiter c ++ rest) = some (c, rest) := by
  unfold encodeChar
  split
  next marked =>
    simp only [Bool.or_eq_true, beq_iff_eq] at marked
    rcases marked with rfl | rfl
    · rcases quoting with rfl | rfl <;> rfl
    · rfl
  next unmarked =>
    simp only [Bool.or_eq_true, beq_iff_eq, not_or] at unmarked
    split
    next feed => rw [beq_iff_eq.mp feed]; rfl
    split
    next back => rw [beq_iff_eq.mp back]; rfl
    split
    next tab => rw [beq_iff_eq.mp tab]; rfl
    split
    · exact if_neg unmarked.2
    · exact decodeChar_escape c rest

theorem encodeChar_append_inj {c other : Char} {rest later : List Char}
    (same : encodeChar printable delimiter c ++ rest = encodeChar printable delimiter other ++ later) :
    c = other ∧ rest = later := by
  have read := decodeChar_encodeChar printable quoting c rest
  rw [same, decodeChar_encodeChar printable quoting] at read
  exact Prod.mk.inj (Option.some.inj read.symm)

/-- Nothing inside a quoted text starts as its end does. -/
theorem encodeChar_ne_delimiter (c : Char) (rest later : List Char) :
    encodeChar printable delimiter c ++ rest ≠ delimiter :: later := by
  have escaped : '\\' ≠ delimiter := by rcases quoting with rfl | rfl <;> decide
  have starts (more : List Char) : '\\' :: more ≠ delimiter :: later := fun same => escaped (List.cons.inj same).1
  unfold encodeChar
  split
  · exact starts _
  next unmarked =>
    simp only [Bool.or_eq_true, beq_iff_eq, not_or] at unmarked
    split
    · exact starts _
    split
    · exact starts _
    split
    · exact starts _
    split
    · exact fun same => unmarked.1 (List.cons.inj same).1
    · obtain ⟨letter, width, written, -, -⟩ := escape_cases c
      rw [written]
      exact starts _

/-- The inside of a quoted text ends at the first delimiter that is not escaped. -/
theorem inside_append_inj {s t rest later : List Char}
    (same : s.flatMap (encodeChar printable delimiter) ++ delimiter :: rest =
      t.flatMap (encodeChar printable delimiter) ++ delimiter :: later) : s = t ∧ rest = later := by
  induction s generalizing t with
  | nil =>
    cases t with
    | nil => exact ⟨rfl, (List.cons.inj same).2⟩
    | cons other t =>
      rw [List.flatMap_cons, List.append_assoc] at same
      exact absurd same.symm (encodeChar_ne_delimiter printable quoting other _ rest)
  | cons c s ih =>
    cases t with
    | nil =>
      rw [List.flatMap_cons, List.append_assoc] at same
      exact absurd same (encodeChar_ne_delimiter printable quoting c _ later)
    | cons other t =>
      rw [List.flatMap_cons, List.flatMap_cons, List.append_assoc, List.append_assoc] at same
      obtain ⟨rfl, onward⟩ := encodeChar_append_inj printable quoting same
      obtain ⟨rfl, rfl⟩ := ih onward
      exact ⟨rfl, rfl⟩

end

theorem delimiter_cases (s : List Char) : delimiter s = '\'' ∨ delimiter s = '"' := by
  unfold delimiter
  split
  · exact .inr rfl
  · exact .inl rfl

/-- A quoted text and what follows it can be told from the two together. -/
theorem encode_append_inj (printable : Char → Bool) {s t rest later : List Char}
    (same : encode printable s ++ rest = encode printable t ++ later) : s = t ∧ rest = later := by
  unfold encode at same
  simp only [List.cons_append, List.append_assoc, List.nil_append] at same
  obtain ⟨first, onward⟩ := List.cons.inj same
  rw [← first] at onward
  exact inside_append_inj printable (delimiter_cases s) onward

/-- A character that a quoted text may show: one that stands for itself, or a printable one of ASCII. -/
def Shown (printable : Char → Bool) (c : Char) : Prop := printable c = true ∨ 0x20 ≤ c.toNat ∧ c.toNat < 0x7F

section

variable {printable : Char → Bool}

theorem shown_of_mem_hexDigits {width n : Nat} {c : Char} (member : c ∈ hexDigits width n) : Shown printable c := by
  obtain ⟨digit, small, rfl⟩ := exists_of_mem_hexDigits member
  have bounds : ∀ digit : Fin 16, 0x20 ≤ (hexDigit digit).toNat ∧ (hexDigit digit).toNat < 0x7F := by decide
  exact .inr (bounds ⟨digit, small⟩)

theorem shown_of_mem_escape {c other : Char} (member : c ∈ escape other) : Shown printable c := by
  obtain ⟨letter, width, written, -, sort⟩ := escape_cases other
  rw [written] at member
  rcases List.mem_cons.mp member with rfl | inside
  · exact .inr (by decide)
  rcases List.mem_cons.mp inside with rfl | digit
  · rcases sort with ⟨rfl, -⟩ | ⟨rfl, -⟩ | ⟨rfl, -⟩ <;> exact .inr (by decide)
  · exact shown_of_mem_hexDigits digit

theorem shown_of_mem_encodeChar {delimiter : Char} (quoting : delimiter = '\'' ∨ delimiter = '"') {c other : Char}
    (member : c ∈ encodeChar printable delimiter other) : Shown printable c := by
  have pair (second : Char) (shown : Shown printable second) (member : c ∈ ['\\', second]) : Shown printable c := by
    rcases List.mem_cons.mp member with rfl | last
    · exact .inr (by decide)
    · exact List.mem_singleton.mp last ▸ shown
  unfold encodeChar at member
  split at member
  next marked =>
    simp only [Bool.or_eq_true, beq_iff_eq] at marked
    refine pair other ?_ member
    rcases marked with rfl | rfl
    · rcases quoting with rfl | rfl <;> exact .inr (by decide)
    · exact .inr (by decide)
  split at member
  · exact pair 'n' (.inr (by decide)) member
  split at member
  · exact pair 'r' (.inr (by decide)) member
  split at member
  · exact pair 't' (.inr (by decide)) member
  split at member
  next plain => exact List.mem_singleton.mp member ▸ .inl plain
  · exact shown_of_mem_escape member

/-- Every character of a quoted text can be shown. -/
theorem shown_of_mem_encode {s : List Char} {c : Char} (member : c ∈ encode printable s) : Shown printable c := by
  have quoting := delimiter_cases s
  have shown : Shown printable (delimiter s) := by
    rcases quoting with same | same <;> rw [same] <;> exact .inr (by decide)
  unfold encode at member
  rcases List.mem_cons.mp member with rfl | inside
  · exact shown
  rcases List.mem_append.mp inside with written | last
  · obtain ⟨other, -, spelled⟩ := List.mem_flatMap.mp written
    exact shown_of_mem_encodeChar quoting spelled
  · exact List.mem_singleton.mp last ▸ shown

end

end Quoted

end Linewise.Text
