import Linewise.Proofs.IntegerText

/-! Which texts an integer type takes, with which value, and how each of the others is turned down. The value is said
by the places of the digits and the range by powers of two, neither of which the parser works out in that form. A type
may be so wide that its powers cannot be made; it then still tells a literal from what is none. -/
namespace Linewise.IntegerFormat

/-- The value of digits by their places: each counts for ten to the number of digits after it. -/
def placeValue : List Char → Nat
  | [] => 0
  | digit :: rest => (digit.toNat - '0'.toNat) * Nat.pow 10 rest.length + placeValue rest

/-- The sign before the digits, and what it multiplies them by. Only signed types know the minus. -/
inductive Sign (signed : Bool) : List Char → Int → Prop
  | none : Sign signed [] 1
  | plus : Sign signed ['+'] 1
  | minus (known : signed = true) : Sign signed ['-'] (-1)

/-- A text of the grammar with its value: at most a sign, then decimal digits, and nothing else. -/
inductive StandsFor (signed : Bool) : List Char → Int → Prop
  | mk {sign digits : List Char} {factor : Int} (leading : Sign signed sign factor) (decimal : IsDecimal digits) :
      StandsFor signed (sign ++ digits) (factor * placeValue digits)

/-- The least value of a type. -/
def least (type : IntegerFormat) : Int :=
  if type.signed then -(Nat.pow 2 (type.bits - 1).toNat : Int) else 0

/-- The greatest value of a type. -/
def greatest (type : IntegerFormat) : Int :=
  if type.signed then (Nat.pow 2 (type.bits - 1).toNat : Int) - 1 else (Nat.pow 2 type.bits.toNat : Int) - 1

/-- The number of bits that the size of a value takes. -/
def width (type : IntegerFormat) : Int := if type.signed then type.bits - 1 else type.bits

/-- The power of two beyond the values of a type can be made. -/
def HasRoom (type : IntegerFormat) : Prop := type.width < bitRoom

instance (type : IntegerFormat) : Decidable type.HasRoom := inferInstanceAs (Decidable (type.width < bitRoom))

/-- Why that power cannot be made: it is longer than any integer, or longer than the memory. -/
def unmade (type : IntegerFormat) : Fault :=
  if bitLimit < type.width then .plain .overflow [.text "too many digits in integer"] else .plain .memory []

/-- Reading digits one after another comes to their value by places. -/
theorem ofDigitChars_eq_placeValue (digits : List Char) : Nat.ofDigitChars 10 digits 0 = placeValue digits := by
  induction digits with
  | nil => rfl
  | cons digit rest ih =>
    rw [Nat.ofDigitChars_cons, Nat.ofDigitChars_eq_ofDigitChars_zero, ih, placeValue, Nat.mul_zero, Nat.zero_add,
      ← Nat.pow_eq, Nat.mul_comm]

theorem standsFor_iff_denotes {signed : Bool} {text : List Char} {n : Int} :
    StandsFor signed text n ↔ Denotes signed text n := by
  constructor
  · rintro ⟨leading, decimal⟩
    rw [← ofDigitChars_eq_placeValue]
    cases leading with
    | none => simpa using Denotes.bare decimal
    | plus => simpa using Denotes.plus decimal
    | minus known => simpa using Denotes.minus known decimal
  · intro denotes
    cases denotes with
    | bare decimal => simpa [ofDigitChars_eq_placeValue] using (StandsFor.mk .none decimal : StandsFor signed _ _)
    | plus decimal => simpa [ofDigitChars_eq_placeValue] using (StandsFor.mk .plus decimal : StandsFor signed _ _)
    | minus known decimal => simpa [ofDigitChars_eq_placeValue] using StandsFor.mk (.minus known) decimal

theorem standsFor_iff_read {signed : Bool} {text : List Char} {n : Int} :
    StandsFor signed text n ↔ ∃ literal, Literal.read? signed text = some literal ∧ literal.value = n :=
  standsFor_iff_denotes.trans denotes_iff_read

section

variable {type : IntegerFormat} {text : String} {literal : Literal}

theorem bound_eq (type : IntegerFormat) : type.bound = exponentOf type.width := rfl

theorem width_nonneg (wide : 1 ≤ type.bits) : 0 ≤ type.width := by
  unfold width
  split <;> omega

theorem bound_of_hasRoom (wide : 1 ≤ type.bits) (room : type.HasRoom) : type.bound = .ok type.width.toNat := by
  have nonneg := width_nonneg wide
  have small : ¬ bitLimit < type.width := by
    have limits : bitRoom ≤ bitLimit := by decide
    unfold HasRoom at room
    omega
  have fits : ¬ bitRoom ≤ type.width := Int.not_le.mpr room
  rw [bound_eq, exponentOf, if_neg (Int.not_lt.mpr nonneg), if_neg small, if_neg fits]

theorem bound_of_crowded (wide : 1 ≤ type.bits) (crowded : ¬ type.HasRoom) : type.bound = .error type.unmade := by
  have nonneg := width_nonneg wide
  rw [bound_eq, exponentOf, unmade, if_neg (Int.not_lt.mpr nonneg), if_pos (Int.not_lt.mp crowded)]
  split <;> rfl

/-- The digits of a literal are digits of its text. -/
theorem digits_le_countP {signed : Bool} {text : List Char} (read : Literal.read? signed text = some literal) :
    literal.digits.length ≤ text.countP Char.isDigit := by
  obtain ⟨decimal, shape⟩ := Literal.read?_cases read
  have all : literal.digits.countP Char.isDigit = literal.digits.length :=
    List.countP_eq_length.mpr decimal.digit
  rcases shape with ⟨rfl, -⟩ | ⟨rfl, -⟩ | ⟨rfl, -, -⟩ <;> simp [all]

/-- A literal is compared with the greatest value first and then with the least. -/
theorem parse_of_read (read : Literal.read? type.signed text.toList = some literal)
    (short : literal.digits.length ≤ digitLimit) {bound : Nat} (bounded : type.bound = .ok bound) :
    type.parse text =
      if isBeyond bound literal.value then .error (.integer .tooLarge text)
      else if isBeyond bound (-literal.value - 1) then .error (.integer .tooSmall text)
      else .ok literal.value := by
  simp only [parse, ne_empty_of_read read, if_false, read, Nat.not_lt.mpr short, bounded]
  cases above : isBeyond bound literal.value <;> cases below : isBeyond bound (-literal.value - 1) <;>
    simp [bind, Except.bind, pure, Except.pure, throw, throwThe, MonadExceptOf.throw, above, below]

theorem parse_of_crowded (read : Literal.read? type.signed text.toList = some literal)
    (short : literal.digits.length ≤ digitLimit) {fault : Fault} (unbounded : type.bound = .error fault) :
    type.parse text = .error fault := by
  simp only [parse, ne_empty_of_read read, if_false, read, Nat.not_lt.mpr short, unbounded]
  rfl

theorem isBeyond_iff_greatest_lt (n : Int) : isBeyond type.width.toNat n = true ↔ type.greatest < n := by
  rw [isBeyond_iff]
  unfold greatest width
  split <;> omega

/-- Below the least value there is nothing but negative numbers of a signed type. -/
theorem isBeyond_iff_lt_least {n : Int} (known : n < 0 → type.signed = true) :
    isBeyond type.width.toNat (-n - 1) = true ↔ n < type.least := by
  rw [isBeyond_iff]
  have positive : (0 : Int) < Nat.pow 2 type.width.toNat := Int.natCast_pos.mpr (Nat.two_pow_pos _)
  unfold least
  split
  next signed =>
    rw [width, if_pos signed]
    omega
  next unsigned =>
    have nonneg : ¬ n < 0 := fun negative => unsigned (known negative)
    omega

/-- What lies within the range of a type is held by it. -/
theorem fits_of_range {n : Int} (wide : 1 ≤ type.bits) (room : type.HasRoom) (low : type.least ≤ n)
    (high : n ≤ type.greatest) : type.Fits n := by
  have known : n < 0 → type.signed = true := by
    intro negative
    unfold least at low
    split at low
    next signed => exact signed
    next => omega
  refine ⟨known, type.width.toNat, bound_of_hasRoom wide room, ?_, ?_⟩
  · rw [Bool.eq_false_iff, ne_eq, isBeyond_iff_greatest_lt]
    omega
  · rw [Bool.eq_false_iff, ne_eq, isBeyond_iff_lt_least known]
    omega

end

/-- The answers to a text: each is given just where its condition holds, and there is no other. -/
structure Classified (type : IntegerFormat) (text : String) : Prop where
  value : ∀ n, type.parse text = .ok n ↔
    type.HasRoom ∧ StandsFor type.signed text.toList n ∧ type.least ≤ n ∧ n ≤ type.greatest
  empty : type.parse text = .error (.integer .empty text) ↔ text = ""
  invalid : type.parse text = .error (.integer .invalidDigit text) ↔
    text ≠ "" ∧ ∀ n, ¬ StandsFor type.signed text.toList n
  tooLarge : type.parse text = .error (.integer .tooLarge text) ↔
    type.HasRoom ∧ ∃ n, StandsFor type.signed text.toList n ∧ type.greatest < n
  tooSmall : type.parse text = .error (.integer .tooSmall text) ↔
    type.HasRoom ∧ ∃ n, StandsFor type.signed text.toList n ∧ n < type.least
  unmade : type.parse text = .error type.unmade ↔
    ¬ type.HasRoom ∧ ∃ n, StandsFor type.signed text.toList n
  only : ∀ fault, type.parse text = .error fault → fault = type.unmade ∨ ∃ flaw, fault = .integer flaw text

section

variable {type : IntegerFormat} {text : String}

theorem unmade_ne_integer (type : IntegerFormat) (flaw : IntegerFlaw) (text : String) :
    type.unmade ≠ .integer flaw text := by
  unfold unmade
  split <;> simp

theorem least_nonpos (type : IntegerFormat) : type.least ≤ 0 := by
  unfold least
  split <;> omega

theorem greatest_nonneg (type : IntegerFormat) : 0 ≤ type.greatest := by
  have positive (k : Nat) : (0 : Int) < Nat.pow 2 k := Int.natCast_pos.mpr (Nat.two_pow_pos k)
  unfold greatest
  split
  · have := positive (type.bits - 1).toNat
    omega
  · have := positive type.bits.toNat
    omega

theorem classified_of_unread (unread : Literal.read? type.signed text.toList = none) : type.Classified text := by
  have outside (n : Int) : ¬ StandsFor type.signed text.toList n := by
    simp [standsFor_iff_read, unread]
  have made (flaw : IntegerFlaw) := (type.unmade_ne_integer flaw text).symm
  by_cases blank : text = ""
  · have parsed : type.parse text = .error (.integer .empty text) := by rw [parse, if_pos blank]
    have isBlank : text = "" ↔ True := iff_of_true blank trivial
    constructor <;> simp [parsed, outside, made, isBlank]
  · have parsed : type.parse text = .error (.integer .invalidDigit text) := by
      rw [parse, if_neg blank, unread]
    constructor <;> simp [parsed, outside, made, blank]

theorem classified_of_read {literal : Literal} (wide : 1 ≤ type.bits)
    (read : Literal.read? type.signed text.toList = some literal) (short : literal.digits.length ≤ digitLimit) :
    type.Classified text := by
  have stands (n : Int) : StandsFor type.signed text.toList n ↔ n = literal.value := by
    simp [standsFor_iff_read, read, Eq.comm]
  have filled := ne_empty_of_read read
  have made := type.unmade_ne_integer
  by_cases room : type.HasRoom
  · have known := (denotes_iff_read.mpr ⟨literal, read, rfl⟩).signed
    have parsed := parse_of_read read short (bound_of_hasRoom wide room)
    simp only [type.isBeyond_iff_greatest_lt literal.value, isBeyond_iff_lt_least known] at parsed
    have low := type.least_nonpos
    have high := type.greatest_nonneg
    have made' (flaw : IntegerFlaw) := (made flaw text).symm
    rcases Int.lt_or_le type.greatest literal.value with above | within
    · rw [if_pos above] at parsed
      have notSmall : ¬ literal.value < type.least := by omega
      constructor <;> simp [parsed, stands, room, filled, made', above, notSmall]
    rw [if_neg (Int.not_lt.mpr within)] at parsed
    rcases Int.lt_or_le literal.value type.least with below | inside
    · rw [if_pos below] at parsed
      constructor <;> simp [parsed, stands, room, filled, made', below] <;> omega
    · rw [if_neg (Int.not_lt.mpr inside)] at parsed
      constructor <;> simp [parsed, stands, room, filled] <;> omega
  · have parsed := parse_of_crowded read short (bound_of_crowded wide room)
    constructor <;> simp [parsed, stands, room, filled, made]

theorem length_toDigits_of_lt {n limit : Nat} (positive : 0 < limit) (small : n < Nat.pow 10 limit) :
    (Nat.toDigits 10 n).length ≤ limit :=
  (Nat.length_toDigits_le_iff (by decide) positive).mpr small

/-- An integer within the range of a type is read back from its text, if it has one. -/
theorem parse_render {n : Int} {written : String} (wide : 1 ≤ type.bits) (room : type.HasRoom) (low : type.least ≤ n)
    (high : n ≤ type.greatest) (rendered : render n = .ok written) : type.parse written = .ok n := by
  unfold render at rendered
  split at rendered
  next small =>
    cases rendered
    apply parse_toString (fits_of_range wide room low high)
    exact length_toDigits_of_lt (by decide) small
  next => cases rendered

end

/-- What an integer type makes of a text with no more digits than can be converted. In the grammar it is its value, if
that lies in the range, and otherwise too large or too small; outside it is empty or holds an invalid digit. The one
exception are types whose powers of two cannot be made, for which no text of the grammar has an answer. Hence what is
written for a value is read back, and an unsigned type never finds a number too small: it knows no minus. -/
theorem parse_classifies (type : IntegerFormat) (wide : 1 ≤ type.bits) :
    (∀ text : String, text.toList.countP Char.isDigit ≤ digitLimit → type.Classified text) ∧
    (type.HasRoom → ∀ n written, type.least ≤ n → n ≤ type.greatest → render n = .ok written →
      type.parse written = .ok n) ∧
    (type.signed = false → type.parse "-0" = .error (.integer .invalidDigit "-0") ∧
      ∀ text : String, text.toList.countP Char.isDigit ≤ digitLimit →
        type.parse text ≠ .error (.integer .tooSmall text)) ∧
    (type.signed = true → type.HasRoom → type.parse "-0" = .ok 0) := by
  have classified (text : String) (short : text.toList.countP Char.isDigit ≤ digitLimit) : type.Classified text := by
    cases read : Literal.read? type.signed text.toList with
    | none => exact classified_of_unread read
    | some literal => exact classified_of_read wide read (Nat.le_trans (digits_le_countP read) short)
  have negativeZero := classified "-0" (by decide)
  refine ⟨classified, fun room n written => parse_render wide room, ?_, ?_⟩
  · intro unsigned
    constructor
    · apply negativeZero.invalid.mpr
      simp [standsFor_iff_read, unsigned, Literal.read?]
    · intro text short tooSmall
      obtain ⟨-, n, stands, below⟩ := (classified text short).tooSmall.mp tooSmall
      rw [least, unsigned, if_neg Bool.false_ne_true] at below
      have signed := (standsFor_iff_denotes.mp stands).signed below
      simp [unsigned] at signed
  · intro signed room
    apply (negativeZero.value 0).mpr
    have zero : StandsFor type.signed "-0".toList 0 :=
      standsFor_iff_read.mpr ⟨⟨true, ['0']⟩, by rw [signed]; rfl, rfl⟩
    exact ⟨room, zero, type.least_nonpos, type.greatest_nonneg⟩

/-- The four ends of the range of `i32`, and the texts next to them. -/
theorem parse_classifies_i32 :
    1 ≤ i32.bits ∧ i32.HasRoom ∧
    i32.parse "-2147483648" = .ok (-2147483648) ∧
    i32.parse "-2147483649" = .error (.integer .tooSmall "-2147483649") ∧
    i32.parse "+02147483647" = .ok 2147483647 ∧
    i32.parse "2147483648" = .error (.integer .tooLarge "2147483648") ∧
    i32.parse "12\n" = .error (.integer .invalidDigit "12\n") := by
  have classified := (parse_classifies i32 (by decide)).1
  have stands {text : String} {n : Int} (denoted : (Literal.read? true text.toList).map Literal.value = some n) :
      StandsFor i32.signed text.toList n := by
    obtain ⟨literal, read, value⟩ := Option.map_eq_some_iff.mp denoted
    exact standsFor_iff_read.mpr ⟨literal, read, value⟩
  have room : i32.HasRoom := by decide
  refine ⟨by decide, room, ?_, ?_, ?_, ?_, ?_⟩
  · exact ((classified _ (by decide)).value _).mpr ⟨room, stands (by decide +kernel), by decide, by decide⟩
  · exact (classified _ (by decide)).tooSmall.mpr ⟨room, -2147483649, stands (by decide +kernel), by decide⟩
  · exact ((classified _ (by decide)).value _).mpr ⟨room, stands (by decide +kernel), by decide, by decide⟩
  · exact (classified _ (by decide)).tooLarge.mpr ⟨room, 2147483648, stands (by decide +kernel), by decide⟩
  · apply (classified _ (by decide)).invalid.mpr
    simp [standsFor_iff_read, i32, Literal.read?, Literal.ofDigits?]

/-- An unsigned type of so many bits that no power of two has as many: zero lies in its range, and is refused. -/
theorem zero_refused_when_too_wide :
    let type : IntegerFormat := ⟨"w", 1000000000000000000000000000000, false⟩
    1 ≤ type.bits ∧ "0".toList.countP Char.isDigit ≤ digitLimit ∧ StandsFor type.signed "0".toList 0 ∧
      type.least ≤ 0 ∧ 0 ≤ type.greatest ∧
      type.parse "0" = .error (.plain .overflow [.text "too many digits in integer"]) := by
  intro type
  have read : Literal.read? type.signed "0".toList = some ⟨false, ['0']⟩ := rfl
  refine ⟨by decide, by decide, standsFor_iff_read.mpr ⟨_, read, rfl⟩, type.least_nonpos, type.greatest_nonneg, ?_⟩
  exact parse_of_crowded read (by decide) (bound_of_crowded (by decide) (by decide))

end Linewise.IntegerFormat
