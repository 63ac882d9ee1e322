import Linewise.Fault

/-! A place in a YAML text: the characters left, and the line and column reached. -/
namespace Linewise.Yaml

/-- A text that is not YAML, or not YAML that is understood here. -/
def malformed : Fault := .plain .document []

/-- What lies too deep within itself. -/
def tooDeep : Fault := .plain .recursion [.text "maximum recursion depth exceeded"]

def isBreak (c : Char) : Bool :=
  c == '\n' || c == '\r' || c.toNat == 0x85 || c.toNat == 0x2028 || c.toNat == 0x2029

def isSpace (c : Char) : Bool := c == ' '

/-- Characters of names, as anchors, directives and tag handles have them. -/
def isNameChar (c : Char) : Bool := c.isAlphanum || c == '-' || c == '_'

def byteOrderMark : Char := Char.ofNat 0xFEFF

/-- Characters a text may hold. -/
def isAdmitted (c : Char) : Bool :=
  let n := c.toNat
  n == 0x09 || n == 0x0A || n == 0x0D || (0x20 ≤ n && n ≤ 0x7E) || n == 0x85 || (0xA0 ≤ n && n ≤ 0xFFFD) ||
    0x10000 ≤ n

structure Cursor where
  rest : List Char
  index : Nat
  line : Nat
  column : Int

namespace Cursor

def start (text : List Char) : Cursor := ⟨text, 0, 0, 0⟩

def peek? (cursor : Cursor) : Option Char := cursor.rest.head?

/-- Is the next character this one? -/
def isAt (cursor : Cursor) (c : Char) : Bool := cursor.peek? == some c

/-- Is the next character of the kind? The end of the text never is. -/
def sees (cursor : Cursor) (p : Char → Bool) : Bool := cursor.peek?.any p

/-- Does the text end, or does a character of the kind follow, `n` characters on? -/
def endsAt (cursor : Cursor) (n : Nat) (p : Char → Bool) : Bool := cursor.rest[n]?.all p

def isBlankOrBreak (c : Char) : Bool := c == ' ' || c == '\t' || isBreak c

def isSpaceOrBreak (c : Char) : Bool := c == ' ' || isBreak c

/-- A break ends a line; a carriage return does so unless a line feed follows. The byte order mark takes no
column. -/
def advance (cursor : Cursor) : Cursor :=
  match cursor.rest with
  | [] => cursor
  | c :: rest =>
    let moved := { cursor with rest, index := cursor.index + 1 }
    if isBreak c && !(c == '\r' && rest.head? == some '\n') then
      { moved with line := cursor.line + 1, column := 0 }
    else if c == byteOrderMark then moved
    else { moved with column := cursor.column + 1 }

def skip : (n : Nat) → Cursor → Cursor
  | 0, cursor => cursor
  | n + 1, cursor => skip n cursor.advance

/-- The longest stretch of characters of a kind. -/
def spanBy (p : Char → Bool) (cursor : Cursor) : List Char × Cursor :=
  let taken := cursor.rest.takeWhile p
  (taken, skip taken.length cursor)

def skipWhile (p : Char → Bool) (cursor : Cursor) : Cursor := (cursor.spanBy p).2

def skipSpaces (cursor : Cursor) : Cursor := cursor.skipWhile isSpace

/-- To the end of the line. -/
def skipLine (cursor : Cursor) : Cursor := cursor.skipWhile (!isBreak ·)

def skipComment (cursor : Cursor) : Cursor := if cursor.isAt '#' then cursor.skipLine else cursor

/-- The break at the cursor, if there is one. All breaks but the two Unicode separators read as line
feeds. -/
def lineBreak? (cursor : Cursor) : Option (Char × Cursor) :=
  match cursor.rest with
  | '\r' :: '\n' :: _ => some ('\n', cursor.skip 2)
  | c :: _ =>
    if !isBreak c then none
    else some (if c.toNat == 0x2028 || c.toNat == 0x2029 then c else '\n', cursor.advance)
  | [] => none

/-- The marks `---` and `...` between documents. -/
def atMark (cursor : Cursor) (mark : Char) : Bool :=
  cursor.rest.take 3 == [mark, mark, mark] && cursor.endsAt 3 isBlankOrBreak

def atDocumentMark (cursor : Cursor) : Bool := cursor.atMark '-' || cursor.atMark '.'

end Cursor

end Linewise.Yaml
