import Linewise.Decimal.Shortest
import Linewise.Integer
import Linewise.Text.Blank
import Linewise.Text.Digit
import Linewise.Text.Letter

/-! Numbers as texts hold them: in the digits of any script, with an optional sign and white space around.
-/
namespace Linewise.Numeral

open Text (Letter)

/-- A digit of any script as a basic one, and white space beyond the basic characters as a space. -/
def plain (letter : Letter) : Char :=
  let c := letter.toChar
  if c.toNat < 0x80 then c
  else if Text.isBlank c then ' '
  else
    match Text.decimalDigit? c with
    | some value => Char.ofNat (0x30 + value)
    | none => c

/-- White space among the basic characters. The separators `1C`..`1F` are none here. -/
def isSpace (c : Char) : Bool := c == ' ' || (0x09 ≤ c.toNat && c.toNat ≤ 0x0D)

def trim (s : List Char) : List Char := ((s.dropWhile isSpace).reverse.dropWhile isSpace).reverse

/-- The sign before a number, and the rest. -/
def signed (char? : α → Option Char) : List α → Bool × List α
  | [] => (false, [])
  | first :: rest =>
    match char? first with
    | some '-' => (true, rest)
    | some '+' => (false, rest)
    | _ => (false, first :: rest)

/-- How many characters of a refused text are shown. -/
def shown : Nat := 200

def invalidInt (base : Nat) (text : List Letter) : Fault :=
  .value ("invalid literal for int() with base " ++ toString base ++ ": " ++
    String.ofList ((Letter.quote text).toList.take shown))

def invalidFloat (text : List Letter) : Fault :=
  .value ("could not convert string to float: " ++ Letter.quote text)

def digitValue? (base : Nat) (c : Char) : Option Nat :=
  let n := c.toNat
  let value :=
    if 0x30 ≤ n ∧ n ≤ 0x39 then n - 0x30
    else if 0x61 ≤ n ∧ n ≤ 0x7A then n - 0x57
    else if 0x41 ≤ n ∧ n ≤ 0x5A then n - 0x37
    else base
  if value < base then some value else none

/-- The text after the mark that may stand before the digits of a base. -/
def unmarked (base : Nat) (s : List Char) : List Char :=
  match base, s with
  | 2, '0' :: 'b' :: rest => rest
  | 2, '0' :: 'B' :: rest => rest
  | 8, '0' :: 'o' :: rest => rest
  | 8, '0' :: 'O' :: rest => rest
  | 16, '0' :: 'x' :: rest => rest
  | 16, '0' :: 'X' :: rest => rest
  | _, s => s

/-- An integer to a base. Too many decimal digits are refused before what follows them is looked at. -/
def readInt (base : Nat) (text : List Letter) : Except Fault Int :=
  let (negative, s) := signed some (trim (text.map plain))
  let (digits, rest) := (unmarked base s).span fun c => (digitValue? base c).isSome
  if base = 10 ∧ IntegerFormat.digitLimit < digits.length then .error (IntegerFormat.tooLong digits.length)
  else if digits = [] ∨ rest ≠ [] then .error (invalidInt base text)
  else
    let size := (digits.filterMap (digitValue? base)).foldl (fun sum digit => sum * base + digit) 0
    .ok (if negative then -(size : Int) else size)

def exponentOf? (s : List Char) : Option Int :=
  match s with
  | [] => some 0
  | mark :: rest =>
    let (negative, digits) := signed some rest
    if (mark == 'e' || mark == 'E') && digits ≠ [] && digits.all Char.isDigit then
      let size : Int := Nat.ofDigitChars 10 digits 0
      some (if negative then -size else size)
    else none

/-- A decimal fraction, without sign. -/
def fractionOf? (s : List Char) : Option Decimal :=
  let (whole, rest) := s.span Char.isDigit
  let (part, rest) :=
    match rest with
    | '.' :: rest => rest.span Char.isDigit
    | rest => ([], rest)
  if whole = [] ∧ part = [] then none
  else do
    let exponent ← exponentOf? rest
    some ⟨false, Nat.ofDigitChars 10 (whole ++ part) 0, exponent - part.length⟩

/-- A floating point number. -/
def readFloat (text : List Letter) : Except Fault Float :=
  let (negative, s) := signed some (trim (text.map plain))
  let size? : Option Float :=
    match String.ofList (s.map Char.toLower) with
    | "inf" | "infinity" => some (Decimal.Real.infinite false).toFloat
    | "nan" => some Decimal.Real.undefined.toFloat
    | _ => (fractionOf? s).map Decimal.toFloat
  match size? with
  | some size => .ok (if negative then -size else size)
  | none => .error (invalidFloat text)

/-- An integer as a floating point number, if it is in range. -/
def toFloat (n : Nat) : Except Fault Float :=
  match Decimal.Real.ofRatio false n 1 with
  | .finite value => .ok (Decimal.Real.finite value).toFloat
  | _ => .error (.plain .overflow [.text "int too large to convert to float"])

end Linewise.Numeral
