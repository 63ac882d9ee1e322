import Linewise.Json

/-! What a line can become. -/
namespace Linewise

inductive Value
  | text (s : String)
  | int (n : Int)
  | bool (b : Bool)
  | none
  deriving DecidableEq, Repr

namespace Value

/-- The value as it is printed. -/
def render : Value → String
  | text s => s
  | int n => toString n
  | bool true => "True"
  | bool false => "False"
  | none => "None"

def number? : Value → Option Int
  | int n => some n
  | bool true => some 1
  | bool false => some 0
  | _ => Option.none

/-- Equality of values, where truth counts as one and falsehood as zero. -/
def agrees (a b : Value) : Bool :=
  match a.number?, b.number? with
  | some m, some n => m = n
  | _, _ => a = b

/-- Equality of lists of values, item by item. -/
def allAgree : List Value → List Value → Bool
  | [], [] => true
  | a :: as, b :: bs => a.agrees b && allAgree as bs
  | _, _ => false

end Value

end Linewise
