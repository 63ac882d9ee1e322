import Linewise.Fault
import Linewise.Text.Blank
import Linewise.Text.Capital

/-! Log levels: numbers that grow with importance, some of which have names. -/
namespace Linewise.Level

def debug : Int := 10
def info : Int := 20
def warning : Int := 30
def error : Int := 40

/-- The levels that can be asked for. -/
def offered : List (String × Int) := [
  ("ERROR", error), ("WARN", warning), ("WARNING", warning), ("INFO", info), ("DEBUG", debug)]

/-- Case and the white space around a name do not matter. -/
def named? (name : String) : Option Int := offered.lookup (Text.capitals (Text.trim name))

def unsupported (name : String) : String := "Unsupported log level: " ++ name

def find (name : String) : Except Fault Int :=
  match named? name with
  | some level => .ok level
  | none => .error (.value (unsupported name))

/-- How a level is written in a record. -/
def label (level : Int) : String :=
  match level with
  | 0 => "NOTSET"
  | 10 => "DEBUG"
  | 20 => "INFO"
  | 30 => "WARNING"
  | 40 => "ERROR"
  | 50 => "CRITICAL"
  | level => "Level " ++ toString level

end Linewise.Level
