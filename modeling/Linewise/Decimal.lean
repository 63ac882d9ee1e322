/-! Decimal fractions `± coefficient · 10 ^ exponent` and their written form. -/
namespace Linewise

structure Decimal where
  negative : Bool
  coefficient : Nat
  exponent : Int
  deriving DecidableEq, Repr

namespace Decimal

/-- Moves the trailing zeros of a coefficient into the exponent. -/
def stripZeros (coefficient : Nat) (exponent : Int) : Nat × Int :=
  if coefficient ≠ 0 ∧ coefficient % 10 = 0 then stripZeros (coefficient / 10) (exponent + 1)
  else (coefficient, exponent)
termination_by coefficient

/-- The fraction with the shortest coefficient; zero gets the exponent 0. -/
def normal (negative : Bool) (coefficient : Nat) (exponent : Int) : Decimal :=
  if coefficient = 0 then ⟨negative, 0, 0⟩
  else
    let (coefficient, exponent) := stripZeros coefficient exponent
    ⟨negative, coefficient, exponent⟩

/-- How a fraction is written: positionally while its point stands after `first` and not after `last`
digits, counted from the first significant one, else with an exponent of at least `width` digits. -/
structure Style where
  first : Int
  last : Int
  width : Nat

def zeros (n : Nat) : String := String.ofList (List.replicate n '0')

def padded (width : Nat) (n : Nat) : String := zeros (width - n.repr.length) ++ n.repr

/-- Digits with the point after `point` of them; a digit stands on either side. -/
def positional (digits : String) (point : Int) : String :=
  if point ≤ 0 then "0." ++ zeros (-point).toNat ++ digits
  else if point ≥ digits.length then digits ++ zeros (point - digits.length).toNat ++ ".0"
  else
    let (whole, part) := digits.toList.splitAt point.toNat
    String.ofList whole ++ "." ++ String.ofList part

def scientific (width : Nat) (digits : String) (exponent : Int) : String :=
  let mantissa :=
    match digits.toList with
    | first :: second :: rest => String.ofList (first :: '.' :: second :: rest)
    | short => String.ofList short
  mantissa ++ (if exponent < 0 then "e-" else "e+") ++ padded width exponent.natAbs

def render (style : Style) (d : Decimal) : String :=
  let digits := d.coefficient.repr
  let point := digits.length + d.exponent
  (if d.negative then "-" else "") ++
    if style.first < point ∧ point ≤ style.last then positional digits point
    else scientific style.width digits (point - 1)

/-- Plain numbers up to sixteen places before the point and down to a ten thousandth. -/
def Style.plain : Style := ⟨-4, 16, 2⟩

end Decimal

end Linewise
