import Linewise.Integer

/-! Integers and the texts they are read from. A text denotes an integer if it is an optional sign and digits; of the
texts that denote an integer one is canonical, and that is the one that is printed. What was read can therefore be
printed and read again. -/
namespace Linewise.IntegerFormat

/-- Decimal digits, at least one. -/
structure IsDecimal (digits : List Char) : Prop where
  filled : digits ≠ []
  digit : ∀ c ∈ digits, c.isDigit = true

/-- The texts of an integer. Only signed types know the minus. -/
inductive Denotes (signed : Bool) : List Char → Int → Prop
  | bare {digits : List Char} (decimal : IsDecimal digits) : Denotes signed digits (Nat.ofDigitChars 10 digits 0)
  | plus {digits : List Char} (decimal : IsDecimal digits) :
      Denotes signed ('+' :: digits) (Nat.ofDigitChars 10 digits 0)
  | minus {digits : List Char} (known : signed = true) (decimal : IsDecimal digits) :
      Denotes signed ('-' :: digits) (-(Nat.ofDigitChars 10 digits 0 : Int))

/-- The text of an integer without a plus sign and without zeros in front. Zero has no sign. -/
inductive Canonical : Int → List Char → Prop
  | zero : Canonical 0 ['0']
  | positive {digits : List Char} (decimal : IsDecimal digits) (unpadded : digits.head? ≠ some '0') :
      Canonical (Nat.ofDigitChars 10 digits 0) digits
  | negative {digits : List Char} (decimal : IsDecimal digits) (unpadded : digits.head? ≠ some '0') :
      Canonical (-(Nat.ofDigitChars 10 digits 0 : Int)) ('-' :: digits)

theorem isDecimal_toDigits (n : Nat) : IsDecimal (Nat.toDigits 10 n) :=
  ⟨Nat.toDigits_ne_nil, fun _ => Nat.isDigit_of_mem_toDigits (by decide) (by decide)⟩

theorem head?_toDigits {n : Nat} (positive : 0 < n) : (Nat.toDigits 10 n).head? ≠ some '0' := by
  induction n using Nat.strongRecOn with
  | _ n ih =>
    by_cases small : n < 10
    · rw [Nat.toDigits_of_lt_base small]
      have digits : ∀ digit : Fin 10, 0 < digit.val → digit.val.digitChar ≠ '0' := by decide
      simpa using digits ⟨n, small⟩ positive
    · -- The digits of the tenth come first, and the tenth is not zero.
      rw [Nat.toDigits_of_base_le (by decide) (by omega), List.head?_append]
      have shorter := ih (n / 10) (by omega) (by omega)
      cases head : (Nat.toDigits 10 (n / 10)).head? with
      | none => exact absurd (List.head?_eq_none_iff.mp head) Nat.toDigits_ne_nil
      | some first => simpa [head] using shorter

theorem toList_toString_of_nonneg {n : Int} (nonneg : 0 ≤ n) : (toString n).toList = Nat.toDigits 10 n.natAbs := by
  have size : n.toNat = n.natAbs := by omega
  simp [Int.repr_eq_if, nonneg, size]

theorem toList_toString_of_neg {n : Int} (negative : n < 0) :
    (toString n).toList = '-' :: Nat.toDigits 10 n.natAbs := by
  have size : (-n).toNat = n.natAbs := by omega
  have sign : ¬ 0 ≤ n := by omega
  simp [Int.repr_eq_if, sign, size]

/-- Integers are printed in canonical form. -/
theorem canonical_toString (n : Int) : Canonical n (toString n).toList := by
  by_cases zero : n = 0
  · subst zero
    exact .zero
  have decimal := isDecimal_toDigits n.natAbs
  have unpadded : (Nat.toDigits 10 n.natAbs).head? ≠ some '0' := head?_toDigits (by omega)
  by_cases negative : n < 0
  · have canonical := Canonical.negative decimal unpadded
    rw [Nat.ofDigitChars_ten_toDigits] at canonical
    rw [toList_toString_of_neg negative]
    have value : -(n.natAbs : Int) = n := by omega
    rwa [value] at canonical
  · have canonical := Canonical.positive decimal unpadded
    rw [Nat.ofDigitChars_ten_toDigits] at canonical
    rw [toList_toString_of_nonneg (by omega)]
    have value : (n.natAbs : Int) = n := by omega
    rwa [value] at canonical

/-- A canonical form is made of digits and the minus sign. -/
theorem Canonical.char {n : Int} {form : List Char} (canonical : Canonical n form) {c : Char} (member : c ∈ form) :
    c.isDigit = true ∨ c = '-' := by
  cases canonical with
  | zero =>
    rw [List.mem_singleton.mp member]
    exact .inl rfl
  | positive decimal unpadded => exact .inl (decimal.digit c member)
  | negative decimal unpadded =>
    rcases List.mem_cons.mp member with rfl | inside
    · exact .inr rfl
    · exact .inl (decimal.digit c inside)

theorem Canonical.char_bounds {n : Int} {form : List Char} (canonical : Canonical n form) {c : Char} (member : c ∈ form) :
    0x2D ≤ c.toNat ∧ c.toNat < 0x3A := by
  rcases canonical.char member with digit | rfl
  · simp only [Char.isDigit, Bool.and_eq_true, decide_eq_true_eq] at digit
    have lower : 0x30 ≤ c.toNat := digit.1
    have upper : c.toNat ≤ 0x39 := digit.2
    omega
  · decide

theorem Canonical.not_mem {n : Int} {form : List Char} (canonical : Canonical n form) {c : Char}
    (control : c.toNat < 0x2D) : c ∉ form := fun member =>
  Nat.not_lt.mpr (canonical.char_bounds member).1 control

theorem ofDigitChars_lt {digits : List Char} (digit : ∀ c ∈ digits, c.isDigit = true) :
    Nat.ofDigitChars 10 digits 0 < Nat.pow 10 digits.length := by
  induction digits with
  | nil => exact Nat.zero_lt_one
  | cons c digits ih =>
    have small : c.toNat - '0'.toNat ≤ 9 := by
      have isDigit := digit c (by simp)
      simp only [Char.isDigit, Bool.and_eq_true, decide_eq_true_eq] at isDigit
      have upper : c.toNat ≤ '9'.toNat := isDigit.2
      have nine : '9'.toNat = '0'.toNat + 9 := rfl
      omega
    have shorter := ih fun other member => digit other (by simp [member])
    -- The first digit counts for as many places as there are digits after it.
    rw [Nat.ofDigitChars_cons, Nat.ofDigitChars_eq_ofDigitChars_zero, List.length_cons, Nat.mul_zero,
      Nat.zero_add, ← Nat.pow_eq]
    have scaled := Nat.mul_le_mul_left (Nat.pow 10 digits.length) small
    have grown : Nat.pow 10 (digits.length + 1) = Nat.pow 10 digits.length * 10 := rfl
    omega

/-- Digits without zeros in front are not more than the digits they come from. -/
theorem length_toDigits_le {digits : List Char} (decimal : IsDecimal digits) :
    (Nat.toDigits 10 (Nat.ofDigitChars 10 digits 0)).length ≤ digits.length :=
  (Nat.length_toDigits_le_iff (by decide) (List.length_pos_iff.mpr decimal.filled)).mpr
    (ofDigitChars_lt decimal.digit)

namespace Literal

theorem natAbs_value (literal : Literal) : literal.value.natAbs = Nat.ofDigitChars 10 literal.digits 0 := by
  unfold value
  cases literal.negative <;> simp

theorem ofDigits?_eq_some_iff {negative : Bool} {digits : List Char} {literal : Literal} :
    ofDigits? negative digits = some literal ↔ IsDecimal digits ∧ literal = ⟨negative, digits⟩ := by
  unfold ofDigits?
  split
  next filled => simp [IsDecimal.mk filled.1 (List.all_eq_true.mp filled.2), eq_comm]
  next bad =>
    have ill : ¬ IsDecimal digits := fun decimal => bad ⟨decimal.filled, List.all_eq_true.mpr decimal.digit⟩
    simp [ill]

theorem read?_of_isDecimal (signed : Bool) {digits : List Char} (decimal : IsDecimal digits) :
    read? signed digits = some ⟨false, digits⟩ := by
  unfold read?
  split
  next rest => exact absurd (decimal.digit '+' (by simp)) (by decide)
  next rest => exact absurd (decimal.digit '-' (by simp)) (by decide)
  next => exact ofDigits?_eq_some_iff.mpr ⟨decimal, rfl⟩

/-- What is read: a sign, if there is one and it is known, and digits. -/
theorem read?_cases {signed : Bool} {text : List Char} {literal : Literal}
    (read : read? signed text = some literal) :
    IsDecimal literal.digits ∧
      (text = literal.digits ∧ literal.negative = false ∨ text = '+' :: literal.digits ∧ literal.negative = false ∨
        text = '-' :: literal.digits ∧ literal.negative = true ∧ signed = true) := by
  unfold read? at read
  split at read
  next digits =>
    obtain ⟨decimal, rfl⟩ := ofDigits?_eq_some_iff.mp read
    exact ⟨decimal, .inr (.inl ⟨rfl, rfl⟩)⟩
  next digits =>
    split at read
    next known =>
      obtain ⟨decimal, rfl⟩ := ofDigits?_eq_some_iff.mp read
      exact ⟨decimal, .inr (.inr ⟨rfl, rfl, known⟩)⟩
    next => cases read
  next =>
    obtain ⟨decimal, rfl⟩ := ofDigits?_eq_some_iff.mp read
    exact ⟨decimal, .inl ⟨rfl, rfl⟩⟩

end Literal

/-- A text that denotes an integer is read as a literal with that value. -/
theorem denotes_iff_read {signed : Bool} {text : List Char} {n : Int} :
    Denotes signed text n ↔ ∃ literal, Literal.read? signed text = some literal ∧ literal.value = n := by
  constructor
  · intro denotes
    cases denotes with
    | bare decimal => exact ⟨_, Literal.read?_of_isDecimal signed decimal, rfl⟩
    | plus decimal => exact ⟨_, Literal.ofDigits?_eq_some_iff.mpr ⟨decimal, rfl⟩, rfl⟩
    | minus known decimal =>
      exact ⟨_, (if_pos known).trans (Literal.ofDigits?_eq_some_iff.mpr ⟨decimal, rfl⟩), rfl⟩
  · rintro ⟨⟨negative, digits⟩, read, rfl⟩
    obtain ⟨decimal, ⟨rfl, rfl⟩ | ⟨rfl, rfl⟩ | ⟨rfl, rfl, known⟩⟩ := Literal.read?_cases read
    · exact .bare decimal
    · exact .plus decimal
    · exact .minus known decimal

theorem Denotes.signed {signed : Bool} {text : List Char} {n : Int} (denotes : Denotes signed text n)
    (negative : n < 0) : signed = true := by
  cases denotes with
  | bare | plus => exact absurd negative (by omega)
  | minus known decimal => exact known

/-- The literal of an integer as it is printed. -/
theorem read?_toString {signed : Bool} {n : Int} (known : n < 0 → signed = true) :
    Literal.read? signed (toString n).toList = some ⟨decide (n < 0), Nat.toDigits 10 n.natAbs⟩ := by
  have decimal := isDecimal_toDigits n.natAbs
  by_cases negative : n < 0
  · rw [toList_toString_of_neg negative, decide_eq_true negative]
    exact (if_pos (known negative)).trans (Literal.ofDigits?_eq_some_iff.mpr ⟨decimal, rfl⟩)
  · rw [toList_toString_of_nonneg (by omega), decide_eq_false negative]
    exact Literal.read?_of_isDecimal signed decimal

theorem value_toDigits (n : Int) : Literal.value ⟨decide (n < 0), Nat.toDigits 10 n.natAbs⟩ = n := by
  unfold Literal.value
  rw [Nat.ofDigitChars_ten_toDigits]
  by_cases negative : n < 0
  · rw [decide_eq_true negative, if_pos rfl]
    omega
  · rw [decide_eq_false negative, if_neg Bool.false_ne_true]
    omega

/-- An integer can be told from the way it is printed. -/
theorem toString_int_inj {n m : Int} (same : (toString n).toList = (toString m).toList) : n = m := by
  have read (n : Int) : Literal.read? true (toString n).toList = some ⟨decide (n < 0), Nat.toDigits 10 n.natAbs⟩ :=
    read?_toString fun _ => rfl
  have literal := (read n).symm.trans ((congrArg _ same).trans (read m))
  rw [← value_toDigits n, Option.some.inj literal, value_toDigits]

/-- A number that a type can hold. -/
structure Fits (type : IntegerFormat) (n : Int) : Prop where
  signed : n < 0 → type.signed = true
  within : ∃ bound, type.bound = .ok bound ∧ isBeyond bound n = false ∧ isBeyond bound (-n - 1) = false

variable {type : IntegerFormat} {text : String} {n : Int}

theorem inRange_eq_ok_iff {bound : Nat} {value : Int} {tooLarge tooSmall : Fault} :
    (do
      if isBeyond bound value then throw tooLarge
      if isBeyond bound (-value - 1) then throw tooSmall
      return value : Except Fault Int) = .ok n ↔
      isBeyond bound value = false ∧ isBeyond bound (-value - 1) = false ∧ value = n := by
  cases isBeyond bound value <;> cases isBeyond bound (-value - 1) <;>
    simp [bind, Except.bind, pure, Except.pure, throw, throwThe, MonadExceptOf.throw]

theorem ne_empty_of_read {signed : Bool} {literal : Literal} (read : Literal.read? signed text.toList = some literal) :
    text ≠ "" := by
  rintro rfl
  cases read

/-- What is parsed: a literal with not too many digits, whose value fits. -/
theorem parse_eq_ok_iff :
    type.parse text = .ok n ↔ ∃ literal, Literal.read? type.signed text.toList = some literal ∧
      literal.digits.length ≤ digitLimit ∧ type.Fits literal.value ∧ literal.value = n := by
  unfold parse
  constructor
  · intro parsed
    split at parsed
    next => cases parsed
    split at parsed
    next => cases parsed
    next literal read =>
    split at parsed
    next => cases parsed
    next short =>
    cases bounded : type.bound with
    | error fault =>
      rw [bounded] at parsed
      cases parsed
    | ok bound =>
      rw [bounded] at parsed
      obtain ⟨upper, lower, value⟩ := inRange_eq_ok_iff.mp parsed
      have signed := (denotes_iff_read.mpr ⟨literal, read, rfl⟩).signed
      exact ⟨literal, read, Nat.not_lt.mp short, ⟨signed, bound, bounded, upper, lower⟩, value⟩
  · rintro ⟨literal, read, short, fits, value⟩
    obtain ⟨bound, bounded, upper, lower⟩ := fits.within
    simp only [ne_empty_of_read read, if_false, read, Nat.not_lt.mpr short, bounded]
    exact inRange_eq_ok_iff.mpr ⟨upper, lower, value⟩

theorem denotes_of_parse (parsed : type.parse text = .ok n) : Denotes type.signed text.toList n :=
  have ⟨literal, read, _, _, value⟩ := parse_eq_ok_iff.mp parsed
  denotes_iff_read.mpr ⟨literal, read, value⟩

/-- A number that fits and can be written is read back from what is printed for it. -/
theorem parse_toString (fits : type.Fits n) (short : (Nat.toDigits 10 n.natAbs).length ≤ digitLimit) :
    type.parse (toString n) = .ok n := by
  have value := value_toDigits n
  exact parse_eq_ok_iff.mpr ⟨_, read?_toString fits.signed, short, value.symm ▸ fits, value⟩

/-- What was read once is read again from what is printed for it. -/
theorem parse_toString_of_parse (parsed : type.parse text = .ok n) : type.parse (toString n) = .ok n := by
  obtain ⟨literal, read, short, fits, rfl⟩ := parse_eq_ok_iff.mp parsed
  refine parse_toString fits (Nat.le_trans ?_ short)
  rw [literal.natAbs_value]
  exact length_toDigits_le (Literal.read?_cases read).1

end Linewise.IntegerFormat
