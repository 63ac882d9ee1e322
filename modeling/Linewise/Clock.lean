import Linewise.Decimal

/-! Readings of the wall clock, as texts in universal time. -/
namespace Linewise.Clock

/-- Year, month and day of a day counted from the first of January 1970. The count is moved to a year that
starts in March, so that a leap day comes last. -/
def civil (days : Nat) : Nat × Nat × Nat :=
  let shifted := days + 719468
  let era := shifted / 146097
  let ofEra := shifted % 146097
  let yearOfEra := (ofEra - ofEra / 1460 + ofEra / 36524 - ofEra / 146096) / 365
  let ofYear := ofEra - (365 * yearOfEra + yearOfEra / 4 - yearOfEra / 100)
  let shiftedMonth := (5 * ofYear + 2) / 153
  let day := ofYear - (153 * shiftedMonth + 2) / 5 + 1
  let month := if shiftedMonth < 10 then shiftedMonth + 3 else shiftedMonth - 9
  let year := yearOfEra + era * 400 + (if month ≤ 2 then 1 else 0)
  (year, month, day)

def dateText (seconds : Nat) : String :=
  let (year, month, day) := civil (seconds / 86400)
  Decimal.padded 4 year ++ "-" ++ Decimal.padded 2 month ++ "-" ++ Decimal.padded 2 day

def timeText (seconds : Nat) : String :=
  let rest := seconds % 86400
  Decimal.padded 2 (rest / 3600) ++ ":" ++ Decimal.padded 2 (rest / 60 % 60) ++ ":" ++
    Decimal.padded 2 (rest % 60)

/-- The time of a log record. -/
def stamp (seconds : Nat) : String := dateText seconds ++ "T" ++ timeText seconds ++ "+0000"

/-- The time in a report, to the microsecond. -/
def iso (seconds micros : Nat) : String :=
  dateText seconds ++ "T" ++ timeText seconds ++ "." ++ Decimal.padded 6 micros ++ "+00:00"

end Linewise.Clock
