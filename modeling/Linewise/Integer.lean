import Linewise.Fault

/-! Integers of a fixed width. A literal is an optional sign and decimal digits, nothing else; unsigned
types know no minus. -/
namespace Linewise

structure IntegerFormat where
  name : String
  bits : Int
  signed : Bool
  deriving DecidableEq, Repr

namespace IntegerFormat

def u32 : IntegerFormat := ⟨"u32", 32, false⟩
def u64 : IntegerFormat := ⟨"u64", 64, false⟩
def i32 : IntegerFormat := ⟨"i32", 32, true⟩
def i64 : IntegerFormat := ⟨"i64", 64, true⟩

/-- The types offered by name, in the order in which they are listed. -/
def offered : List IntegerFormat := [u64, u32, i64, i32]

/-- No integer has more bits than this, however large the memory. -/
def bitLimit : Int := 30 * 2305843009213693944

/-- For integers of this many bits or more there is no memory. -/
def bitRoom : Int := Nat.pow 2 35

/-- The exponent of a power of two, if there is room for that power. -/
def exponentOf (exponent : Int) : Except Fault Nat :=
  if exponent < 0 then .error (.value "negative shift count")
  else if bitLimit < exponent then .error (.plain .overflow [.text "too many digits in integer"])
  else if bitRoom ≤ exponent then .error (.plain .memory [])
  else .ok exponent.toNat

/-- The values of a type lie below the power of two with this exponent, and those of a signed type not below
the negative of it. -/
def bound (type : IntegerFormat) : Except Fault Nat :=
  exponentOf (if type.signed then type.bits - 1 else type.bits)

/-- Is a number greater than all with so many bits? -/
def isBeyond (bits : Nat) (n : Int) : Bool := 0 < n && bits ≤ n.toNat.log2

theorem isBeyond_iff {bits : Nat} {n : Int} : isBeyond bits n = true ↔ Nat.pow 2 bits ≤ n := by
  have positive : (0 : Int) < Nat.pow 2 bits := Int.natCast_pos.mpr (Nat.two_pow_pos bits)
  by_cases above : 0 < n
  · have whole : (n.toNat : Int) = n := Int.toNat_of_nonneg (by omega)
    have filled : n.toNat ≠ 0 := by omega
    simp only [isBeyond, above, decide_true, Bool.true_and, decide_eq_true_eq, Nat.le_log2 filled]
    rw [← Int.ofNat_le, whole, Nat.pow_eq]
  · simp only [isBeyond, above, decide_false, Bool.false_and, Bool.false_eq_true, false_iff]
    omega

/-- A literal: its sign and its digits, leading zeros included. -/
structure Literal where
  negative : Bool
  digits : List Char
  deriving DecidableEq, Repr

def Literal.ofDigits? (negative : Bool) (digits : List Char) : Option Literal :=
  if digits ≠ [] ∧ digits.all Char.isDigit then some ⟨negative, digits⟩ else none

def Literal.read? (signed : Bool) : List Char → Option Literal
  | '+' :: digits => ofDigits? false digits
  | '-' :: digits => if signed then ofDigits? true digits else none
  | digits => ofDigits? false digits

def Literal.value (literal : Literal) : Int :=
  let size : Int := Nat.ofDigitChars 10 literal.digits 0
  if literal.negative then -size else size

/-- Literals with more digits are not converted, nor are integers that would take more. -/
def digitLimit : Nat := 4300

def notWritten : Fault :=
  .value ("Exceeds the limit (" ++ toString digitLimit ++
    " digits) for integer string conversion; use sys.set_int_max_str_digits() to increase the limit")

/-- The decimal literal of an integer. -/
def render (n : Int) : Except Fault String :=
  if n.natAbs < Nat.pow 10 digitLimit then .ok (toString n) else .error notWritten

/-- Writes a number next to a power of two. A power with more bits than any literal is not worked out. -/
def renderNear (exponent : Nat) (near : Int → Int) : Except Fault String :=
  if 4 * digitLimit < exponent then .error notWritten else render (near (Nat.pow 2 exponent))

/-- The least value of a type, written. -/
def leastText (type : IntegerFormat) : Except Fault String :=
  if type.signed then do renderNear (← type.bound) fun size => -size else .ok "0"

/-- The greatest value of a type, written. -/
def greatestText (type : IntegerFormat) : Except Fault String := do
  renderNear (← type.bound) fun size => size - 1

def tooLong (count : Nat) : Fault :=
  .value ("Exceeds the limit (" ++ toString digitLimit ++
    " digits) for integer string conversion: value has " ++ toString count ++
    " digits; use sys.set_int_max_str_digits() to increase the limit")

def parse (type : IntegerFormat) (text : String) : Except Fault Int :=
  if text = "" then .error (.integer .empty text)
  else
    match Literal.read? type.signed text.toList with
    | none => .error (.integer .invalidDigit text)
    | some literal =>
      if digitLimit < literal.digits.length then .error (tooLong literal.digits.length)
      else do
        let bound ← type.bound
        if isBeyond bound literal.value then throw (.integer .tooLarge text)
        if isBeyond bound (-literal.value - 1) then throw (.integer .tooSmall text)
        return literal.value

end IntegerFormat

end Linewise
