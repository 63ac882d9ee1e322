import Linewise.Text.Hex
import Linewise.Text.Printable

/-! Quoted texts. A text is set between apostrophes, or between quotation marks if it holds an apostrophe
and no quotation mark. The delimiter, the backslash and whatever cannot be printed are escaped, so a quoted
text is one line and can be read back. -/
namespace Linewise.Text

namespace Quoted

/-- An escaped character: two, four or eight hexadecimal digits, the fewest that hold it. -/
def escape (c : Char) : List Char :=
  let n := c.toNat
  if n < 0x100 then '\\' :: 'x' :: hexDigits 2 n
  else if n < 0x10000 then '\\' :: 'u' :: hexDigits 4 n
  else '\\' :: 'U' :: hexDigits 8 n

def encodeChar (printable : Char → Bool) (delimiter c : Char) : List Char :=
  if c == delimiter || c == '\\' then ['\\', c]
  else if c == '\n' then ['\\', 'n']
  else if c == '\r' then ['\\', 'r']
  else if c == '\t' then ['\\', 't']
  else if printable c then [c]
  else escape c

def delimiter (s : List Char) : Char :=
  if s.contains '\'' && !s.contains '"' then '"' else '\''

/-- The quoted form, for any choice of the characters that stand for themselves. -/
def encode (printable : Char → Bool) (s : List Char) : List Char :=
  delimiter s :: s.flatMap (encodeChar printable (delimiter s)) ++ [delimiter s]

end Quoted

def quote (s : String) : String := String.ofList (Quoted.encode isPrintable s.toList)

/-- Quoted bytes: as a quoted text, with every byte outside the printable ASCII range escaped. -/
def quoteBytes (bytes : List UInt8) : String :=
  let s := bytes.map fun b => Char.ofNat b.toNat
  String.ofList ('b' :: Quoted.encode (fun c => 0x20 ≤ c.toNat && c.toNat < 0x7F) s)

end Linewise.Text
