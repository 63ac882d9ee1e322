import Linewise.Integer
import Linewise.Yaml.Token

/-! Directives, anchors and tags. -/
namespace Linewise.Yaml.Token

open Cursor

def readName (cursor : Cursor) : Except Fault (String × Cursor) :=
  match cursor.spanBy isNameChar with
  | ([], _) => .error malformed
  | (name, cursor) => .ok (String.ofList name, cursor)

def isAnchorEnd (c : Char) : Bool :=
  isBlankOrBreak c || c == '?' || c == ':' || c == ',' || c == ']' || c == '\x7d' || c == '%' || c == '@' ||
    c.toNat == 0x60

/-- The name after `&` or `*`. -/
def readAnchor (cursor : Cursor) : Except Fault (String × Cursor) := do
  let (name, cursor) ← readName cursor.advance
  if cursor.endsAt 0 isAnchorEnd then return (name, cursor) else throw malformed

def isUriChar (c : Char) : Bool := c.isAlphanum || "-;/?:@&=+$,_.!~*'()[]%".toList.contains c

def isHexChar (c : Char) : Bool := (Text.hexValue? c).isSome

/-- Bytes written `%hh`, one after the other. -/
def readEscapes : (fuel : Nat) → Cursor → Except Fault (List UInt8 × Cursor)
  | 0, cursor => .ok ([], cursor)
  | fuel + 1, cursor =>
    match cursor.rest with
    | '%' :: a :: b :: _ =>
      match Text.hexNumber? [a, b] with
      | some n => do
        let (bytes, cursor) ← readEscapes fuel (cursor.skip 3)
        return (UInt8.ofNat n :: bytes, cursor)
      | none => .error malformed
    | '%' :: _ => .error malformed
    | _ => .ok ([], cursor)

/-- A stretch of URI characters, in which escapes stand for UTF-8 text. -/
def readUriFrom : (fuel : Nat) → Cursor → Except Fault (List Char × Cursor)
  | 0, cursor => .ok ([], cursor)
  | fuel + 1, cursor =>
    match cursor.peek? with
    | some '%' => do
      let (bytes, cursor) ← readEscapes cursor.rest.length cursor
      let chars ← (Text.Utf8.decode bytes).mapError fun _ => malformed
      let (rest, cursor) ← readUriFrom fuel cursor
      return (chars ++ rest, cursor)
    | some c =>
      if isUriChar c then do
        let (rest, cursor) ← readUriFrom fuel cursor.advance
        return (c :: rest, cursor)
      else .ok ([], cursor)
    | none => .ok ([], cursor)

def readUri (cursor : Cursor) : Except Fault (String × Cursor) := do
  if !cursor.sees isUriChar then throw malformed
  let (uri, cursor) ← readUriFrom cursor.rest.length cursor
  return (String.ofList uri, cursor)

/-- `!`, or a name between two of them. -/
def readHandle (cursor : Cursor) : Except Fault (String × Cursor) := do
  if !cursor.isAt '!' then throw malformed
  let opened := cursor.advance
  if opened.isAt ' ' then return ("!", opened)
  let (name, cursor) := opened.spanBy isNameChar
  if cursor.isAt '!' then return (String.ofList ('!' :: name ++ ['!']), cursor.advance) else throw malformed

/-- A tag, as a handle and what follows it. -/
def readTagText (cursor : Cursor) : Except Fault (Option String × String × Cursor) := do
  let opened := cursor.advance
  if opened.isAt '<' then
    let (uri, cursor) ← readUri opened.advance
    if cursor.isAt '>' then return (none, uri, cursor.advance) else throw malformed
  else if opened.endsAt 0 isBlankOrBreak then return (none, "!", opened)
  else if (opened.rest.takeWhile (!isSpaceOrBreak ·)).contains '!' then
    let (handle, cursor) ← readHandle cursor
    let (suffix, cursor) ← readUri cursor
    return (some handle, suffix, cursor)
  else
    let (suffix, cursor) ← readUri opened
    return (some "!", suffix, cursor)

def readTag (cursor : Cursor) : Except Fault (Token × Cursor) := do
  let (handle, suffix, cursor) ← readTagText cursor
  if cursor.endsAt 0 isSpaceOrBreak then return (tag handle suffix, cursor) else throw malformed

def readNumber (cursor : Cursor) : Except Fault (Nat × Cursor) :=
  match cursor.spanBy Char.isDigit with
  | ([], _) => .error malformed
  | (digits, cursor) =>
    if IntegerFormat.digitLimit < digits.length then .error (IntegerFormat.tooLong digits.length)
    else .ok (Nat.ofDigitChars 10 digits 0, cursor)

def readVersion (cursor : Cursor) : Except Fault (Directive × Cursor) := do
  let (major, cursor) ← readNumber cursor.skipSpaces
  if !cursor.isAt '.' then throw malformed
  let (minor, cursor) ← readNumber cursor.advance
  if cursor.endsAt 0 isSpaceOrBreak then return (.version major minor, cursor) else throw malformed

def readHandleDirective (cursor : Cursor) : Except Fault (Directive × Cursor) := do
  let (handle, cursor) ← readHandle cursor.skipSpaces
  if !cursor.isAt ' ' then throw malformed
  let (uri, cursor) ← readUri cursor.skipSpaces
  if cursor.endsAt 0 isSpaceOrBreak then return (.handle handle uri, cursor) else throw malformed

/-- The rest of a line that may hold a comment and nothing else. -/
def endLine (cursor : Cursor) : Except Fault Cursor :=
  let cursor := cursor.skipSpaces.skipComment
  match cursor.lineBreak? with
  | some (_, cursor) => .ok cursor
  | none => if cursor.rest = [] then .ok cursor else .error malformed

def readDirective (cursor : Cursor) : Except Fault (Token × Cursor) := do
  let (name, cursor) ← readName cursor.advance
  if !cursor.endsAt 0 isSpaceOrBreak then throw malformed
  let (found, cursor) ←
    match name with
    | "YAML" => readVersion cursor
    | "TAG" => readHandleDirective cursor
    | _ => pure (.other, cursor.skipLine)
  return (directive found, ← endLine cursor)

end Linewise.Yaml.Token
