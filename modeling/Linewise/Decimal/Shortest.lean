import Linewise.Decimal

/-! Binary64 numbers as decimal fractions. The shortest fraction of a number is the one with the fewest
digits among those nearer to it than to any other number; of several, the nearest one. -/
namespace Linewise.Decimal

/-- A finite binary64 number: `± mantissa · 2 ^ exponent`. -/
structure Binary where
  negative : Bool
  mantissa : Nat
  exponent : Int
  deriving DecidableEq, Repr

inductive Real
  | finite (value : Binary)
  | infinite (negative : Bool)
  | undefined
  deriving DecidableEq, Repr

/-- What the 64 bits of a number say. -/
def Real.ofBits (bits : Nat) : Real :=
  let negative : Bool := bits / Nat.pow 2 63 % 2 = 1
  let biased : Nat := bits / Nat.pow 2 52 % Nat.pow 2 11
  let fraction := bits % Nat.pow 2 52
  if biased = 2047 then (if fraction = 0 then .infinite negative else .undefined)
  else if biased = 0 then .finite ⟨negative, fraction, -1074⟩
  else .finite ⟨negative, Nat.pow 2 52 + fraction, biased - 1075⟩

def Real.ofFloat (x : Float) : Real := .ofBits x.toBits.toNat

/-- The whole part, towards zero. -/
def Binary.truncate (b : Binary) : Int :=
  let size := b.mantissa * Nat.pow 2 b.exponent.toNat / Nat.pow 2 (-b.exponent).toNat
  if b.negative then -size else size

/-- Does the number equal an integer? -/
def Binary.isInt (b : Binary) (n : Int) : Bool :=
  b.truncate = n && b.mantissa * Nat.pow 2 b.exponent.toNat % Nat.pow 2 (-b.exponent).toNat = 0

/-- The least `k ≤ start + fuel` from `start` on with `num < den · 10 ^ k`. -/
def pointFrom (num den : Nat) : (fuel : Nat) → (start : Int) → Int
  | 0, k => k
  | fuel + 1, k =>
    if num * Nat.pow 10 (-k).toNat < den * Nat.pow 10 k.toNat then k else pointFrom num den fuel (k + 1)

/-- Numbers between the halves of the gaps to both neighbours of `mantissa · 2 ^ exponent`, times four:
the bounds themselves belong to an even mantissa. -/
structure Range where
  low : Nat
  high : Nat
  closed : Bool

def Range.of (b : Binary) : Range :=
  let low := if b.mantissa = Nat.pow 2 52 ∧ b.exponent ≠ -1074 then 1 else 2
  ⟨4 * b.mantissa - low, 4 * b.mantissa + 2, b.mantissa % 2 = 0⟩

def Range.holds (r : Range) (unit value : Nat) : Bool :=
  if r.closed then r.low * unit ≤ value && value ≤ r.high * unit
  else r.low * unit < value && value < r.high * unit

/-- The best coefficient on the grid `10 ^ step`, for the number `num / den` in the range. A tie goes to the
even one. -/
def onGrid (range : Range) (unit den num : Nat) (step : Int) : Option Nat :=
  let grid := Nat.pow 10 step.toNat
  let scale := Nat.pow 10 (-step).toNat
  let below := num * scale / (den * grid)
  let value (c : Nat) : Nat := 4 * c * grid * den
  let fits (c : Nat) : Bool := range.holds (unit * scale) (value c)
  let rest := num * scale % (den * grid)
  let nearer :=
    if 2 * rest < den * grid then below
    else if 2 * rest > den * grid then below + 1
    else if below % 2 = 0 then below else below + 1
  let other := if nearer = below then below + 1 else below
  if fits nearer then some nearer else if fits other then some other else none

/-- Tries grids with more and more digits. -/
def finest (range : Range) (unit den num : Nat) (point : Int) : (left digits : Nat) → Nat × Int
  | 0, digits => ((onGrid range unit den num (point - digits)).getD 0, point - digits)
  | left + 1, digits =>
    match onGrid range unit den num (point - digits) with
    | some c => (c, point - digits)
    | none => finest range unit den num point left (digits + 1)

/-- The shortest decimal fraction that stands for the number. -/
def shortest (b : Binary) : Decimal :=
  if b.mantissa = 0 then ⟨b.negative, 0, 0⟩
  else
    let unit := Nat.pow 2 b.exponent.toNat
    let den := Nat.pow 2 (-b.exponent).toNat
    let num := b.mantissa * unit
    let point := pointFrom num den 640 (-324)
    let (c, e) := finest (.of b) unit den num point 16 1
    normal b.negative c e

/-- Division to the nearest integer, a tie going to the even one. -/
def divideEven (num den : Nat) : Nat :=
  let below := num / den
  let rest := 2 * (num % den)
  if rest < den ∨ (rest = den ∧ below % 2 = 0) then below else below + 1

/-- The nearest binary64 number to `num / den`, a tie going to the even one. -/
def Real.ofRatio (negative : Bool) (num den : Nat) : Real :=
  let first : Int := max (num.log2 - den.log2 - 53) (-1074)
  let above (exponent : Int) : Nat := num * Nat.pow 2 (-exponent).toNat
  let below (exponent : Int) : Nat := den * Nat.pow 2 exponent.toNat
  let exponent := if above first < below first * Nat.pow 2 53 then first else first + 1
  let mantissa := divideEven (above exponent) (below exponent)
  if mantissa = 0 then .finite ⟨negative, 0, -1074⟩
  else
    let value : Binary :=
      if mantissa = Nat.pow 2 53 then ⟨negative, Nat.pow 2 52, exponent + 1⟩ else ⟨negative, mantissa, exponent⟩
    if 971 < value.exponent then .infinite negative else .finite value

/-- The 64 bits of a number. -/
def Real.toBits : Real → Nat
  | .finite value =>
    (if value.negative then Nat.pow 2 63 else 0) +
      if value.mantissa < Nat.pow 2 52 then value.mantissa
      else (value.exponent + 1075).toNat * Nat.pow 2 52 + (value.mantissa - Nat.pow 2 52)
  | .infinite negative => (if negative then Nat.pow 2 63 else 0) + 2047 * Nat.pow 2 52
  | .undefined => 2047 * Nat.pow 2 52 + Nat.pow 2 51

def Real.toFloat (x : Real) : Float := Float.ofBits (UInt64.ofNat x.toBits)

/-- The nearest binary64 number to a fraction. Fractions of 310 digits before the point and more are out of
range, and those that start 330 places after it are too small to be told from zero. -/
def toReal (d : Decimal) : Real :=
  let point := d.exponent + d.coefficient.repr.length
  if d.coefficient = 0 ∨ point < -330 then .finite ⟨d.negative, 0, -1074⟩
  else if 310 < point then .infinite d.negative
  else .ofRatio d.negative (d.coefficient * Nat.pow 10 d.exponent.toNat) (Nat.pow 10 (-d.exponent).toNat)

def toFloat (d : Decimal) : Float := d.toReal.toFloat

end Linewise.Decimal
