import Linewise.Yaml.Token.Tag

/-! The texts of scalars: between quotes, plain, and in blocks. Line breaks inside a text are folded: a
single one is a space, more of them lose the first. -/
namespace Linewise.Yaml.Token

open Cursor
open Text (Letter)

def isBlankChar (c : Char) : Bool := c == ' ' || c == '\t'

/-- A break and those after it, folded. -/
def folded (first : Char) (more : List Char) : List Char :=
  if first ≠ '\n' then first :: more else if more = [] then [' '] else more

/-- The letter of a code given by an escape. -/
def ofCode (code : Nat) : Except Fault Letter :=
  if 0x7FFFFFFF < code then .error (.plain .overflow [.text "Python int too large to convert to C int"])
  else if 0x10FFFF < code then .error (.value "chr() arg not in range(0x110000)")
  else if 0xD800 ≤ code ∧ code < 0xE000 then .ok (.surrogate code)
  else .ok (.char (Char.ofNat code))

def escaped? : Char → Option Char
  | '0' => some '\x00'
  | 'a' => some '\x07'
  | 'b' => some '\x08'
  | 't' => some '\t'
  | '\t' => some '\t'
  | 'n' => some '\n'
  | 'v' => some '\x0b'
  | 'f' => some '\x0c'
  | 'r' => some '\r'
  | 'e' => some '\x1b'
  | ' ' => some ' '
  | '"' => some '"'
  | '\\' => some '\\'
  | '/' => some '/'
  | 'N' => some '\u0085'
  | '_' => some '\u00a0'
  | 'L' => some '\u2028'
  | 'P' => some '\u2029'
  | _ => none

def codeLength? : Char → Option Nat
  | 'x' => some 2
  | 'u' => some 4
  | 'U' => some 8
  | _ => none

/-- Empty lines inside quotes. No mark between documents may stand there. -/
def readBreaks : (fuel : Nat) → Cursor → Except Fault (List Char × Cursor)
  | 0, cursor => .ok ([], cursor)
  | fuel + 1, cursor =>
    if cursor.atDocumentMark then .error malformed
    else
      let cursor := cursor.skipWhile isBlankChar
      match cursor.lineBreak? with
      | none => .ok ([], cursor)
      | some (first, cursor) => do
        let (more, cursor) ← readBreaks fuel cursor
        return (first :: more, cursor)

/-- White space inside quotes. -/
def readGap (fuel : Nat) (cursor : Cursor) : Except Fault (List Char × Cursor) :=
  let (blanks, cursor) := cursor.spanBy isBlankChar
  match cursor.lineBreak? with
  | none => if cursor.rest = [] then .error malformed else .ok (blanks, cursor)
  | some (first, cursor) => do
    let (more, cursor) ← readBreaks fuel cursor
    return (folded first more, cursor)

/-- What a backslash stands for, from the character after it on. -/
def readEscape (fuel : Nat) (cursor : Cursor) : Except Fault (List Letter × Cursor) :=
  match cursor.peek? with
  | none => .error malformed
  | some c =>
    match escaped? c, codeLength? c, cursor.lineBreak? with
    | some char, _, _ => .ok ([.char char], cursor.advance)
    | none, some length, _ =>
      let digits := cursor.advance.rest.take length
      match Text.hexNumber? digits with
      | some code =>
        if digits.length = length then do
          return ([← ofCode code], cursor.skip (length + 1))
        else .error malformed
      | none => .error malformed
    | none, none, some (_, cursor) => do
      let (breaks, cursor) ← readBreaks fuel cursor
      return (Letter.ofChars breaks, cursor)
    | none, none, none => .error malformed

def isQuotedChar (c : Char) : Bool := !(c == '\'' || c == '"' || c == '\\' || isBlankOrBreak c)

/-- Text inside quotes up to white space, to the closing quote or to the end. -/
def readSolid (double : Bool) : (fuel : Nat) → Cursor → Except Fault (List Letter × Cursor)
  | 0, cursor => .ok ([], cursor)
  | fuel + 1, cursor => do
    let (run, cursor) := cursor.spanBy isQuotedChar
    let next ←
      match double, cursor.rest with
      | false, '\'' :: '\'' :: _ => pure (some ([Letter.char '\''], cursor.skip 2))
      | true, '\'' :: _ => pure (some ([.char '\''], cursor.advance))
      | false, '"' :: _ => pure (some ([.char '"'], cursor.advance))
      | false, '\\' :: _ => pure (some ([.char '\\'], cursor.advance))
      | true, '\\' :: _ => some <$> readEscape fuel cursor.advance
      | _, _ => pure none
    match next with
    | none => return (Letter.ofChars run, cursor)
    | some (text, cursor) =>
      let (rest, cursor) ← readSolid double fuel cursor
      return (Letter.ofChars run ++ text ++ rest, cursor)

def readQuotedFrom (double : Bool) : (fuel : Nat) → Cursor → Except Fault (List Letter × Cursor)
  | 0, _ => .error malformed
  | fuel + 1, cursor =>
    if cursor.isAt (if double then '"' else '\'') then .ok ([], cursor.advance)
    else do
      let (gap, cursor) ← readGap fuel cursor
      let (solid, cursor) ← readSolid double fuel cursor
      let (rest, cursor) ← readQuotedFrom double fuel cursor
      return (Letter.ofChars gap ++ solid ++ rest, cursor)

/-- A scalar in single or double quotes. Every step takes a character at least. -/
def readQuoted (double : Bool) (cursor : Cursor) : Except Fault (Token × Cursor) := do
  let fuel := cursor.rest.length + 1
  let (first, cursor) ← readSolid double fuel cursor.advance
  let (rest, cursor) ← readQuotedFrom double fuel cursor
  return (scalar (first ++ rest) false, cursor)

def isFlowMark (c : Char) : Bool := c == ',' || c == '[' || c == ']' || c == '\x7b' || c == '\x7d'

/-- How far a plain scalar runs without a blank. A colon ends it before a blank, and inside brackets also
before a bracket or comma. -/
def plainLength (flow : Bool) : List Char → Nat
  | [] => 0
  | c :: rest =>
    if isBlankOrBreak c then 0
    else if c == ':' && rest.head?.all (fun d => isBlankOrBreak d || (flow && isFlowMark d)) then 0
    else if flow && (isFlowMark c || c == '?') then 0
    else plainLength flow rest + 1

/-- The white space after a piece of plain text: its folded form, and whether a line ended. It is empty
where nothing may follow. -/
structure PlainGap where
  text : List Char
  broke : Bool
  cursor : Cursor

/-- Further empty lines; none if a mark between documents comes first. -/
def plainBreaks : (fuel : Nat) → Cursor → Option (List Char) × Cursor
  | 0, cursor => (some [], cursor)
  | fuel + 1, cursor =>
    let cursor := cursor.skipSpaces
    match cursor.lineBreak? with
    | none => (some [], cursor)
    | some (first, cursor) =>
      if cursor.atDocumentMark then (none, cursor)
      else
        match plainBreaks fuel cursor with
        | (none, cursor) => (none, cursor)
        | (some more, cursor) => (some (first :: more), cursor)

def plainGap (fuel : Nat) (cursor : Cursor) : PlainGap :=
  let (blanks, cursor) := cursor.spanBy isSpace
  match cursor.lineBreak? with
  | none => ⟨blanks, false, cursor⟩
  | some (first, cursor) =>
    if cursor.atDocumentMark then ⟨[], true, cursor⟩
    else
      match plainBreaks fuel cursor with
      | (none, cursor) => ⟨[], true, cursor⟩
      | (some more, cursor) => ⟨folded first more, true, cursor⟩

/-- Plain text from a piece on, after the white space before it. The truth value says whether the text was
followed by the end of a line. -/
def readPlainFrom (flow : Bool) (indent : Int) :
    (fuel : Nat) → (before : PlainGap) → List Char × Bool × Cursor
  | 0, before => ([], before.broke, before.cursor)
  | fuel + 1, before =>
    let length := plainLength flow before.cursor.rest
    if length = 0 then ([], before.broke, before.cursor)
    else
      let piece := before.text ++ before.cursor.rest.take length
      let gap := plainGap fuel (before.cursor.skip length)
      if gap.text = [] || gap.cursor.isAt '#' || (!flow && gap.cursor.column < indent) then
        (piece, gap.broke, gap.cursor)
      else
        let (rest, broke, cursor) := readPlainFrom flow indent fuel gap
        (piece ++ rest, broke, cursor)

def readPlain (flow : Bool) (indent : Int) (cursor : Cursor) : Token × Bool × Cursor :=
  let (text, broke, cursor) := readPlainFrom flow indent (cursor.rest.length + 1) ⟨[], false, cursor⟩
  (scalar (Letter.ofChars text) true, broke, cursor)

/-- What becomes of the breaks that end a block: one is kept, or all, or none. -/
inductive Chomp
  | clip
  | keep
  | strip
  deriving DecidableEq, Repr

def readChomp (cursor : Cursor) : Option Chomp × Cursor :=
  if cursor.isAt '+' then (some .keep, cursor.advance)
  else if cursor.isAt '-' then (some .strip, cursor.advance)
  else (none, cursor)

def readIncrement (cursor : Cursor) : Except Fault (Option Nat × Cursor) :=
  match cursor.peek? with
  | some c =>
    if c == '0' then .error malformed
    else if c.isDigit then .ok (some (c.toNat - '0'.toNat), cursor.advance)
    else .ok (none, cursor)
  | none => .ok (none, cursor)

/-- The signs after `|` or `>`, in either order. -/
def readBlockHeader (cursor : Cursor) : Except Fault (Chomp × Option Nat × Cursor) := do
  let (chomp, cursor) := readChomp cursor
  let (increment, cursor) ← readIncrement cursor
  let (chomp, cursor) :=
    match chomp, increment with
    | none, some _ => readChomp cursor
    | chomp, _ => (chomp, cursor)
  if !cursor.endsAt 0 isSpaceOrBreak then throw malformed
  return (chomp.getD .clip, increment, ← endLine cursor)

def skipIndent (indent : Int) (cursor : Cursor) : Cursor :=
  let spaces := (cursor.rest.takeWhile isSpace).length
  cursor.skip (min spaces (indent - cursor.column).toNat)

/-- Empty lines inside a block. -/
def blockBreaks (indent : Int) : (fuel : Nat) → Cursor → List Char × Cursor
  | 0, cursor => ([], cursor)
  | fuel + 1, cursor =>
    let cursor := skipIndent indent cursor
    match cursor.lineBreak? with
    | none => ([], cursor)
    | some (first, cursor) =>
      let (more, cursor) := blockBreaks indent fuel cursor
      (first :: more, cursor)

/-- Empty lines before a block, with the widest indentation seen. -/
def blockIndentation : (fuel : Nat) → (widest : Int) → Cursor → List Char × Int × Cursor
  | 0, widest, cursor => ([], widest, cursor)
  | fuel + 1, widest, cursor =>
    let spaced := cursor.skipSpaces
    let widest := max widest spaced.column
    match spaced.lineBreak? with
    | none => ([], widest, spaced)
    | some (first, cursor) =>
      let (more, widest, cursor) := blockIndentation fuel widest cursor
      (first :: more, widest, cursor)

structure BlockText where
  text : List Char
  lastBreak : List Char
  breaks : List Char
  cursor : Cursor

/-- The lines of a block, after some empty ones. In a folded block a break between two lines that start with
no blank is folded. -/
def readBlockLines (fold : Bool) (indent : Int) : (fuel : Nat) → (breaks : List Char) → Cursor → BlockText
  | 0, breaks, cursor => ⟨[], [], breaks, cursor⟩
  | fuel + 1, breaks, cursor =>
    if cursor.column ≠ indent ∨ cursor.rest = [] then ⟨[], [], breaks, cursor⟩
    else
      let flush := !cursor.sees isBlankChar
      let (line, cursor) := cursor.spanBy (!isBreak ·)
      let (lineEnd, cursor) : List Char × Cursor :=
        match cursor.lineBreak? with
        | some (c, cursor) => ([c], cursor)
        | none => ([], cursor)
      let (more, cursor) := blockBreaks indent fuel cursor
      if cursor.column ≠ indent ∨ cursor.rest = [] then ⟨breaks ++ line, lineEnd, more, cursor⟩
      else
        let joint :=
          if fold && lineEnd == ['\n'] && flush && !cursor.sees isBlankChar then
            if more = [] then [' '] else []
          else lineEnd
        let block := readBlockLines fold indent fuel more cursor
        { block with text := breaks ++ line ++ joint ++ block.text }

def readBlock (fold : Bool) (parent : Int) (cursor : Cursor) : Except Fault (Token × Cursor) := do
  let (chomp, increment, cursor) ← readBlockHeader cursor.advance
  let least := max (parent + 1) 1
  let (breaks, indent, cursor) :=
    match increment with
    | some increment =>
      let indent := least + increment - 1
      let (breaks, cursor) := blockBreaks indent (cursor.rest.length + 1) cursor
      (breaks, indent, cursor)
    | none =>
      let (breaks, widest, cursor) := blockIndentation (cursor.rest.length + 1) 0 cursor
      (breaks, max least widest, cursor)
  let block := readBlockLines fold indent (cursor.rest.length + 1) breaks cursor
  let tail :=
    match chomp with
    | .clip => block.lastBreak
    | .keep => block.lastBreak ++ block.breaks
    | .strip => []
  return (scalar (Letter.ofChars (block.text ++ tail)) false, block.cursor)

end Linewise.Yaml.Token
