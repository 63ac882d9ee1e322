import Linewise.Numeral
import Linewise.Text.Small
import Linewise.Yaml.Moment

/-! Scalar values, and how the text of a scalar is read for each tag. -/
namespace Linewise.Yaml

/-- A scalar value. The number written `.nan` is one value, equal to itself; any other number that is none
is undefined for itself. -/
inductive Scalar
  | null
  | bool (b : Bool)
  | int (n : Int)
  | real (x : Decimal.Real)
  | nan
  | text (s : List Text.Letter)
  | bytes (bytes : List UInt8)
  | date (date : Date)
  | moment (moment : Moment)
  deriving DecidableEq, Repr

namespace Scalar

open Text (Letter)

def realText : Decimal.Real → String
  | .finite b => (Decimal.shortest b).render .plain
  | .infinite negative => if negative then "-inf" else "inf"
  | .undefined => "nan"

/-- The value as it stands inside another. -/
def quoted : Scalar → Except Fault String
  | null => .ok "None"
  | bool b => .ok (if b then "True" else "False")
  | int n => IntegerFormat.render n
  | real x => .ok (realText x)
  | nan => .ok (realText .undefined)
  | text s => .ok (Letter.quote s)
  | bytes b => .ok (Text.quoteBytes b)
  | date d => .ok d.quoted
  | moment m => .ok m.quoted

/-- The value as it stands for itself. -/
def render : Scalar → Except Fault (List Letter)
  | text s => .ok s
  | date d => .ok (Letter.ofString d.render)
  | moment m => .ok (Letter.ofString m.render)
  | other => Letter.ofString <$> other.quoted

def number? : Scalar → Option Int
  | int n => some n
  | bool b => some (if b then 1 else 0)
  | real (.finite b) => if b.isInt b.truncate then some b.truncate else none
  | _ => none

/-- Do two keys count as one? Numbers are compared by value, truth values among them, and points in time by
the time they name. -/
def agrees (a b : Scalar) : Bool :=
  match a, b with
  | real .undefined, _ => false
  | moment m, moment n => m.agrees n
  | a, b =>
    match a.number?, b.number? with
    | some m, some n => m = n
    | _, _ => a = b

def outOfRange : Fault := .plain .index [.text "string index out of range"]

/-- The value of digits to the base sixty, the first being the highest. -/
def sexagesimal (parts : List Int) : Int := parts.foldl (fun acc part => acc * 60 + part) 0

/-- Digits may be grouped by `_`. -/
def withoutGaps (text : List Letter) : List Letter := text.filter (· ≠ .char '_')

def readInt (text : List Letter) : Except Fault Int := do
  let s := withoutGaps text
  if s = [] then throw outOfRange
  let (negative, s) := Numeral.signed Letter.char? s
  let size ←
    match s with
    | [] => throw outOfRange
    | [.char '0'] => pure 0
    | .char '0' :: .char 'b' :: rest => Numeral.readInt 2 rest
    | .char '0' :: .char 'x' :: rest => Numeral.readInt 16 rest
    | .char '0' :: _ => Numeral.readInt 8 s
    | _ =>
      if s.contains (.char ':') then sexagesimal <$> (Tag.split (.char ':') s).mapM (Numeral.readInt 10)
      else Numeral.readInt 10 s
  return if negative then -size else size

/-- The value of parts to the base sixty, the last first, the first of them counting `unit` times. Each part
is scaled and then added. -/
def sexagesimalFloat (unit : Nat) (sum : Float) : List Float → Except Fault Float
  | [] => .ok sum
  | part :: rest => do sexagesimalFloat (unit * 60) (sum + part * (← Numeral.toFloat unit)) rest

def readFloat (text : List Letter) : Except Fault Scalar := do
  let s := Letter.mapRuns Text.smallLetters (withoutGaps text)
  if s = [] then throw outOfRange
  let (negative, s) := Numeral.signed Letter.char? s
  if s = Letter.ofString ".nan" then return nan
  let size ←
    if s = Letter.ofString ".inf" then pure (Decimal.Real.infinite false).toFloat
    else if s.contains (.char ':') then
      sexagesimalFloat 1 0 (← (Tag.split (.char ':') s).mapM Numeral.readFloat).reverse
    else Numeral.readFloat s
  return real (.ofFloat (if negative then -size else size))

def readBool (text : List Letter) : Except Fault Bool :=
  let word := Letter.mapRuns Text.smallLetters text
  if ["yes", "true", "on"].any (word = Letter.ofString ·) then .ok true
  else if ["no", "false", "off"].any (word = Letter.ofString ·) then .ok false
  else .error (.plain .key [.written (Letter.quote word)])

def base64Value? (c : Char) : Option Nat :=
  if 'A' ≤ c ∧ c ≤ 'Z' then some (c.toNat - 0x41)
  else if 'a' ≤ c ∧ c ≤ 'z' then some (c.toNat - 0x61 + 26)
  else if c.isDigit then some (c.toNat - 0x30 + 52)
  else if c = '+' then some 62
  else if c = '/' then some 63
  else none

/-- Bytes written to the base 64. Characters that are no digits are passed over; the end must come after
whole bytes, filled up by `=`. -/
def base64From (place left pads : Nat) : List Char → Option (List UInt8)
  | [] => if place = 0 then some [] else none
  | c :: rest =>
    if c = '=' then
      if 2 ≤ place ∧ 4 ≤ place + pads + 1 then some []
      else base64From place left (if 2 ≤ place then pads + 1 else pads) rest
    else
      match base64Value? c with
      | none => base64From place left pads rest
      | some v =>
        match place with
        | 0 => base64From 1 v 0 rest
        | 1 => (UInt8.ofNat (left * 4 + v / 16) :: ·) <$> base64From 2 (v % 16) 0 rest
        | 2 => (UInt8.ofNat (left * 16 + v / 4) :: ·) <$> base64From 3 (v % 4) 0 rest
        | _ => (UInt8.ofNat (left * 64 + v) :: ·) <$> base64From 0 0 0 rest

def readBytes (text : List Letter) : Except Fault (List UInt8) :=
  let chars := text.map Letter.toChar
  if chars.any (0x80 ≤ ·.toNat) then .error malformed
  else
    match base64From 0 0 0 chars with
    | some found => .ok found
    | none => .error malformed

def readTimestamp (text : List Letter) : Except Fault Scalar :=
  match Tag.timeParts? (Tag.withoutFinalBreak (text.map Letter.toChar)) with
  | none => .error (.plain .missingAttribute [.text "'NoneType' object has no attribute 'groupdict'"])
  | some parts =>
    let date : Date := ⟨number parts.year, number parts.month, number parts.day⟩
    match parts.clock with
    | none => do
      date.check
      return .date date
    | some (hour, minute, second) => do
      let offset := offsetOf parts.zone
      if let some minutes := offset then Moment.checkOffset minutes
      let moment : Moment := ⟨date, number hour, number minute, number second, microOf parts.fraction, offset⟩
      moment.check
      return .moment moment

/-- Reads the text of a scalar; tags of collections and unknown ones are not for scalars. -/
def read? (tag : String) (s : List Letter) : Option (Except Fault Scalar) :=
  if tag = Tag.null then some (.ok .null)
  else if tag = Tag.bool then some (bool <$> readBool s)
  else if tag = Tag.int then some (int <$> readInt s)
  else if tag = Tag.float then some (readFloat s)
  else if tag = Tag.binary then some (bytes <$> readBytes s)
  else if tag = Tag.timestamp then some (readTimestamp s)
  else if tag = Tag.text then some (.ok (Scalar.text s))
  else none

end Scalar

end Linewise.Yaml
