/-! Terminal escape sequences, which are left out of what is not shown on a terminal. -/
namespace Linewise.Text

def isParameter (c : Char) : Bool := c == ';' || c == '?' || c.isDigit

/-- The characters after a control sequence, if one starts here: `ESC [`, parameters, a letter. -/
def afterSequence? : List Char → Option (List Char)
  | '\x1b' :: '[' :: rest =>
    match rest.dropWhile isParameter with
    | c :: rest => if c.isAlpha then some rest else none
    | [] => none
  | _ => none

/-- Removes control sequences. `skip` counts the characters of one that are still to be passed over. -/
def stripFrom : (skip : Nat) → List Char → List Char
  | _, [] => []
  | skip + 1, _ :: rest => stripFrom skip rest
  | 0, c :: rest =>
    match afterSequence? (c :: rest) with
    | some after => stripFrom (rest.length - after.length) rest
    | none => c :: stripFrom 0 rest

def stripEscapes (s : String) : String := String.ofList (stripFrom 0 s.toList)

end Linewise.Text
