import Linewise.Integer
import Linewise.Text.Blank
import Linewise.Value

/-! Transforms of lines. A transform declares the classes of faults that mean "this line has no value";
any other fault is not its to explain and passes through. -/
namespace Linewise

structure Transform where
  name : String
  apply : String → Except Fault Value
  declared : List FaultClass

namespace Transform

/-- Reads an integer, if asked to after removing the white space around it. -/
def integer (type : IntegerFormat) (trimmed : Bool) : Transform where
  name := type.name
  apply line := .int <$> type.parse (if trimmed then Text.trim line else line)
  declared := [.value]

def offered : List Transform := IntegerFormat.offered.map (integer · true)

def find (name : String) : Except Fault Transform :=
  match offered.find? (·.name = name) with
  | some transform => .ok transform
  | none =>
    .error (.value ("Unsupported transform: " ++ name ++ " (expected one of: " ++
      ", ".intercalate (offered.map (·.name)) ++ ")"))

def declares (transform : Transform) (fault : Fault) : Bool := transform.declared.any (fault.isA ·)

/-- A declared fault is a failure to parse the line; without a transform a line is its own value. -/
def run (transform : Option Transform) (number : Option Int) (line : String) : Except Fault Value :=
  match transform with
  | none => .ok (.text line)
  | some transform =>
    match transform.apply line with
    | .ok value => .ok value
    | .error fault =>
      if transform.declares fault then .error (.failed (.parsing number line) (some fault)) else .error fault

/-- How a run names its transform. -/
def label : Option Transform → String
  | none => "identity"
  | some transform => transform.name

end Transform

end Linewise
