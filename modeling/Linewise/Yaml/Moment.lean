import Linewise.Yaml.Tag

/-! Dates and points in time. -/
namespace Linewise.Yaml

structure Date where
  year : Nat
  month : Nat
  day : Nat
  deriving DecidableEq, Repr

namespace Date

def isLeap (year : Nat) : Bool := year % 4 == 0 && (year % 100 != 0 || year % 400 == 0)

def daysIn (year month : Nat) : Nat :=
  match month with
  | 2 => if isLeap year then 29 else 28
  | 4 | 6 | 9 | 11 => 30
  | _ => 31

def check (date : Date) : Except Fault Unit :=
  if date.year = 0 then .error (.value "year 0 is out of range")
  else if date.month < 1 ∨ 12 < date.month then .error (.value "month must be in 1..12")
  else if date.day < 1 ∨ daysIn date.year date.month < date.day then
    .error (.value "day is out of range for month")
  else .ok ()

def render (date : Date) : String :=
  Decimal.padded 4 date.year ++ "-" ++ Decimal.padded 2 date.month ++ "-" ++ Decimal.padded 2 date.day

def parts (date : Date) : List Nat := [date.year, date.month, date.day]

/-- The days from the beginning of the first year to the end of a date. -/
def ordinal (date : Date) : Nat :=
  let years := date.year - 1
  let months := (List.range (date.month - 1)).foldl (fun days month => days + daysIn date.year (month + 1)) 0
  365 * years + years / 4 - years / 100 + years / 400 + months + date.day

end Date

/-- A date and a time of day, perhaps with the zone's offset in minutes. -/
structure Moment where
  date : Date
  hour : Nat
  minute : Nat
  second : Nat
  micro : Nat
  offset : Option Int
  deriving DecidableEq, Repr

namespace Moment

/-- A span of minutes, in days and seconds; only the days can be negative. -/
def spanText (minutes : Int) : String :=
  let days := minutes.fdiv 1440
  let seconds := minutes.fmod 1440 * 60
  let parts := (if days ≠ 0 then ["days=" ++ toString days] else []) ++
    (if seconds ≠ 0 then ["seconds=" ++ toString seconds] else [])
  "datetime.timedelta(" ++ (if parts = [] then "0" else ", ".intercalate parts) ++ ")"

/-- An offset is less than a day. -/
def checkOffset (minutes : Int) : Except Fault Unit :=
  if minutes.natAbs < 1440 then .ok ()
  else
    .error (.value ("offset must be a timedelta strictly between -timedelta(hours=24) and " ++
      "timedelta(hours=24), not " ++ spanText minutes ++ "."))

def check (moment : Moment) : Except Fault Unit := do
  moment.date.check
  if 23 < moment.hour then throw (.value "hour must be in 0..23")
  if 59 < moment.minute then throw (.value "minute must be in 0..59")
  if 59 < moment.second then throw (.value "second must be in 0..59")

def offsetText (minutes : Int) : String :=
  (if minutes < 0 then "-" else "+") ++ Decimal.padded 2 (minutes.natAbs / 60) ++ ":" ++
    Decimal.padded 2 (minutes.natAbs % 60)

def render (moment : Moment) : String :=
  moment.date.render ++ " " ++ Decimal.padded 2 moment.hour ++ ":" ++ Decimal.padded 2 moment.minute ++ ":" ++
    Decimal.padded 2 moment.second ++ (if moment.micro = 0 then "" else "." ++ Decimal.padded 6 moment.micro) ++
    match moment.offset with
    | none => ""
    | some minutes => offsetText minutes

/-- Parts that are zero are left out from the end, down to the minutes. -/
def parts (moment : Moment) : List Nat :=
  moment.date.parts ++ [moment.hour, moment.minute] ++
    if moment.micro ≠ 0 then [moment.second, moment.micro]
    else if moment.second ≠ 0 then [moment.second] else []

/-- Millionths of a second since the beginning of the first year, at the zone without offset. -/
def instant (moment : Moment) (offset : Int) : Int :=
  let minutes : Int := (moment.date.ordinal * 24 + moment.hour) * 60 + moment.minute - offset
  (minutes * 60 + moment.second) * 1000000 + moment.micro

/-- Two points in time agree if both have a zone and name the same time, or neither has one. -/
def agrees (a b : Moment) : Bool :=
  match a.offset, b.offset with
  | some m, some n => a.instant m = b.instant n
  | _, _ => a = b

def zoneText (minutes : Int) : String :=
  if minutes = 0 then "datetime.timezone.utc" else "datetime.timezone(" ++ spanText minutes ++ ")"

def quoted (moment : Moment) : String :=
  "datetime.datetime(" ++ ", ".intercalate (moment.parts.map toString) ++
    (match moment.offset with
    | none => ""
    | some minutes => ", tzinfo=" ++ zoneText minutes) ++ ")"

end Moment

def Date.quoted (date : Date) : String :=
  "datetime.date(" ++ ", ".intercalate (date.parts.map toString) ++ ")"

def number (digits : List Char) : Nat := Nat.ofDigitChars 10 digits 0

/-- Millionths of a second, from the first six digits after the point. -/
def microOf (fraction : List Char) : Nat := number ((fraction ++ List.replicate 6 '0').take 6)

/-- The offset of a zone that is written. -/
def offsetOf (zone : List Char) : Option Int :=
  match zone with
  | [] => none
  | ['Z'] => some 0
  | sign :: rest =>
    let (hours, rest) := rest.span Char.isDigit
    let minutes : Int := 60 * number hours + number (rest.drop 1)
    some (if sign == '-' then -minutes else minutes)

end Linewise.Yaml
