import Linewise.Decimal.Shortest
import Linewise.Fault

/-! Durations between two readings of a clock that counts seconds. -/
namespace Linewise.Duration

/-- Whole milliseconds of a number of seconds, never negative. -/
def ofReal : Decimal.Real → Except Fault Nat
  | .finite value => .ok value.truncate.toNat
  | .infinite _ => .error (.plain .overflow [.text "cannot convert float infinity to integer"])
  | .undefined => .error (.value "cannot convert float NaN to integer")

/-- The difference is taken in seconds and then scaled. -/
def between (start stop : Float) : Except Fault Nat := ofReal (.ofFloat ((stop - start) * 1000))

end Linewise.Duration
