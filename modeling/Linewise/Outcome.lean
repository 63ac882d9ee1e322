import Linewise.Fault
import Linewise.Value

/-! The outcome of a run: all values in order, or the one failure that stopped it. Failures are told apart
by the occasion on which they arose, so two runs that fail alike still have two failures. -/
namespace Linewise

structure Occurrence where
  occasion : Nat
  fault : Fault

structure Outcome where
  values : List Value
  failure : Option Occurrence

namespace Outcome

def isOk (outcome : Outcome) : Bool := outcome.failure.isNone

def ofValues (values : List Value) : Outcome := ⟨values, none⟩

def ofFailure (failure : Occurrence) : Outcome := ⟨[], some failure⟩

/-- A failure leaves no values behind. -/
def make (values : List Value) (failure : Option Occurrence) : Except Fault Outcome :=
  if failure.isSome ∧ values ≠ [] then
    .error (.value "PipelineResult cannot carry values together with an error")
  else .ok ⟨values, failure⟩

def toExcept (outcome : Outcome) : Except Fault (List Value) :=
  match outcome.failure with
  | some failure => .error failure.fault
  | none => .ok outcome.values

/-- Adds a value to the list that the outcome holds. -/
def push (outcome : Outcome) (value : Value) : Outcome := { outcome with values := outcome.values ++ [value] }

/-- An outcome together with the question whose list it holds: the one it was made from, or a copy. -/
structure Held where
  outcome : Outcome
  shared : Bool

/-- Adds a value to the list that the outcome was made from. A copy does not follow. -/
def Held.pushGiven (held : Held) (value : Value) : Held :=
  if held.shared then { held with outcome := held.outcome.push value } else held

/-- Equal values, and the same failure or none. -/
def agrees (a b : Outcome) : Bool :=
  Value.allAgree a.values b.values &&
    a.failure.map Occurrence.occasion = b.failure.map Occurrence.occasion

end Outcome

end Linewise
