import Linewise.Decimal.Shortest
import Linewise.Text.Quoted

/-! JSON values and their written form. Fields keep the order in which they were set. -/
namespace Linewise

inductive Json
  | null
  | bool (b : Bool)
  | int (n : Int)
  | real (x : Decimal.Real)
  | text (s : String)
  | list (items : List Json)
  | object (fields : List (String × Json))
  deriving Inhabited, Repr

namespace Json

/-- A character inside a JSON text: quotation marks, backslashes and controls are escaped. -/
def escapeChar (c : Char) : List Char :=
  match c with
  | '"' => ['\\', '"']
  | '\\' => ['\\', '\\']
  | '\n' => ['\\', 'n']
  | '\r' => ['\\', 'r']
  | '\t' => ['\\', 't']
  | c =>
    if c.toNat = 0x08 then ['\\', 'b']
    else if c.toNat = 0x0C then ['\\', 'f']
    else if c.toNat < 0x20 then '\\' :: 'u' :: Text.hexDigits 4 c.toNat
    else [c]

def quote (s : String) : String := String.ofList ('"' :: s.toList.flatMap escapeChar ++ ['"'])

/-- Numbers in the fewest digits; what is out of range goes by its name. -/
def numberText : Decimal.Real → String
  | .finite b => (Decimal.shortest b).render .plain
  | .infinite negative => if negative then "-Infinity" else "Infinity"
  | .undefined => "NaN"

/-- A layout breaks lines and indents each level by some spaces, or writes all on one line. -/
structure Layout where
  step : Option Nat

def Layout.flat : Layout := ⟨none⟩
def Layout.indented (step : Nat) : Layout := ⟨some step⟩

def Layout.lineBreak (layout : Layout) (depth : Nat) : String :=
  match layout.step with
  | none => ""
  | some step => String.ofList ('\n' :: List.replicate (step * depth) ' ')

/-- Written parts between two brackets, each on a line of its own if the layout breaks lines. -/
def enclose (layout : Layout) (depth : Nat) (opening closing : String) (parts : List String) : String :=
  if parts.isEmpty then opening ++ closing
  else
    opening ++ layout.lineBreak (depth + 1) ++ ("," ++ layout.lineBreak (depth + 1)).intercalate parts ++
      layout.lineBreak depth ++ closing

mutual

/-- The written form of a value that stands inside `depth` others. -/
def render (layout : Layout) (depth : Nat) : Json → String
  | null => "null"
  | bool true => "true"
  | bool false => "false"
  | int n => toString n
  | real x => numberText x
  | text s => quote s
  | list items => enclose layout depth "[" "]" (renderItems layout (depth + 1) items)
  | object fields => enclose layout depth "\x7b" "\x7d" (renderFields layout (depth + 1) fields)

def renderItems (layout : Layout) (depth : Nat) : List Json → List String
  | [] => []
  | item :: rest => render layout depth item :: renderItems layout depth rest

def renderFields (layout : Layout) (depth : Nat) : List (String × Json) → List String
  | [] => []
  | (name, value) :: rest =>
    (quote name ++ ": " ++ render layout depth value) :: renderFields layout depth rest

end

/-- Sets a field: an old one keeps its place, a new one goes last. -/
def setField (name : String) (value : α) : List (String × α) → List (String × α)
  | [] => [(name, value)]
  | (old, kept) :: rest =>
    if old = name then (name, value) :: rest else (old, kept) :: setField name value rest

def optional (write : α → Json) : Option α → Json
  | none => null
  | some a => write a

end Json

end Linewise
