import Linewise.Fault

/-! The positional argument of a command. -/
namespace Linewise.Argument

/-- The first argument; the failure names what was expected. -/
def first (arguments : List (Option String)) (name : String) : Except Failure String :=
  match arguments with
  | some argument :: _ => .ok argument
  | _ => .error ⟨.argument name, none⟩

end Linewise.Argument
