import Linewise.Yaml.Token.Scalar

/-! From text to tokens. Indentation opens and closes blocks. A node that stands at the start of a line or
after an indicator may turn out to be a key: the place of its first token is remembered, and the key mark
is put there once a colon follows on the same line. -/
namespace Linewise.Yaml

/-- A node that may be a key. It must be one if it stands at the indentation of its block. -/
structure PendingKey where
  place : Nat
  required : Bool
  index : Nat
  line : Nat
  column : Int

structure Lexer where
  cursor : Cursor
  tokens : Array Token
  flow : Nat
  indent : Int
  indents : List Int
  allowKey : Bool
  keys : List (Nat × PendingKey)

namespace Lexer

def start (text : List Char) : Lexer := ⟨.start text, #[], 0, -1, [], true, []⟩

def push (lexer : Lexer) (token : Token) : Lexer := { lexer with tokens := lexer.tokens.push token }

/-- Puts a token before the one at a place. -/
def insert (lexer : Lexer) (place : Nat) (token : Token) : Lexer :=
  { lexer with tokens := lexer.tokens.insertIdxIfInBounds place token }

/-- A key and its colon stand on one line, no more than this many characters apart. -/
def keyReach : Nat := 1024

def isStale (lexer : Lexer) (key : PendingKey) : Bool :=
  key.line != lexer.cursor.line || keyReach < lexer.cursor.index - key.index

def dropStaleKeys (lexer : Lexer) : Except Fault Lexer :=
  if lexer.keys.any (fun (_, key) => lexer.isStale key && key.required) then .error malformed
  else .ok { lexer with keys := lexer.keys.filter fun (_, key) => !lexer.isStale key }

/-- Gives up the key that may be pending at this level of brackets. -/
def dropKey (lexer : Lexer) : Except Fault Lexer :=
  match lexer.keys.lookup lexer.flow with
  | none => .ok lexer
  | some key =>
    if key.required then .error malformed
    else .ok { lexer with keys := lexer.keys.filter (·.1 != lexer.flow) }

/-- Remembers that the next token may start a key. -/
def markKey (lexer : Lexer) : Except Fault Lexer :=
  if !lexer.allowKey then .ok lexer
  else do
    let cursor := lexer.cursor
    let required := lexer.flow == 0 && lexer.indent == cursor.column
    let lexer ← lexer.dropKey
    let key : PendingKey := ⟨lexer.tokens.size, required, cursor.index, cursor.line, cursor.column⟩
    return { lexer with keys := (lexer.flow, key) :: lexer.keys }

def closeBlocks (column : Int) : List Int → (indent : Int) → Array Token → Array Token × Int × List Int
  | [], indent, tokens => (tokens, indent, [])
  | outer :: indents, indent, tokens =>
    if column < indent then closeBlocks column indents outer (tokens.push .blockEnd)
    else (tokens, indent, outer :: indents)

/-- Ends the blocks that are indented further than a column. Inside brackets there are none. -/
def unwind (lexer : Lexer) (column : Int) : Lexer :=
  if lexer.flow ≠ 0 then lexer
  else
    let (tokens, indent, indents) := closeBlocks column lexer.indents lexer.indent lexer.tokens
    { lexer with tokens, indent, indents }

/-- Indents to a column, if that is further in. -/
def deepen (lexer : Lexer) (column : Int) : Option Lexer :=
  if lexer.indent < column then
    some { lexer with indents := lexer.indent :: lexer.indents, indent := column }
  else none

/-- Starts a block at a column, unless it has been started there. -/
def openBlock (lexer : Lexer) (column : Int) (token : Token) : Lexer :=
  match lexer.deepen column with
  | some lexer => lexer.push token
  | none => lexer

/-- Moves over blanks, comments and empty lines. At the start of a line a key may stand. -/
def skipToToken : (fuel : Nat) → Lexer → Lexer
  | 0, lexer => lexer
  | fuel + 1, lexer =>
    let cursor := lexer.cursor.skipSpaces.skipComment
    match cursor.lineBreak? with
    | none => { lexer with cursor }
    | some (_, cursor) => skipToToken fuel { lexer with cursor, allowKey := lexer.allowKey || lexer.flow == 0 }

def skipMark (lexer : Lexer) : Lexer :=
  if lexer.cursor.index = 0 ∧ lexer.cursor.isAt byteOrderMark then
    { lexer with cursor := lexer.cursor.advance }
  else lexer

/-- Adds a token of `length` characters. -/
def take (lexer : Lexer) (token : Token) (length : Nat) : Lexer :=
  { lexer.push token with cursor := lexer.cursor.skip length }

/-- Adds a token that was read. -/
def add (lexer : Lexer) (read : Except Fault (Token × Cursor)) : Except Fault Lexer := do
  let (token, cursor) ← read
  return { lexer.push token with cursor }

/-- Ends all blocks, before a directive, a mark between documents or the end. -/
def settle (lexer : Lexer) : Except Fault Lexer := do
  let lexer ← (lexer.unwind (-1)).dropKey
  return { lexer with allowKey := false }

def openFlow (lexer : Lexer) (token : Token) : Except Fault Lexer := do
  let lexer ← lexer.markKey
  return { lexer with flow := lexer.flow + 1, allowKey := true }.take token 1

def closeFlow (lexer : Lexer) (token : Token) : Except Fault Lexer := do
  let lexer ← lexer.dropKey
  return { lexer with flow := lexer.flow - 1, allowKey := false }.take token 1

def flowEntry (lexer : Lexer) : Except Fault Lexer := do
  let lexer ← lexer.dropKey
  return { lexer with allowKey := true }.take .flowEntry 1

/-- An indicator that opens a block may only stand where a key may. -/
def openBlockHere (lexer : Lexer) (token : Token) : Except Fault Lexer :=
  if lexer.flow ≠ 0 then .ok lexer
  else if lexer.allowKey then .ok (lexer.openBlock lexer.cursor.column token)
  else .error malformed

def blockEntry (lexer : Lexer) : Except Fault Lexer := do
  let lexer ← (← lexer.openBlockHere .blockSequenceStart).dropKey
  return { lexer with allowKey := true }.take .blockEntry 1

def keyMark (lexer : Lexer) : Except Fault Lexer := do
  let lexer ← (← lexer.openBlockHere .blockMappingStart).dropKey
  return { lexer with allowKey := lexer.flow == 0 }.take .key 1

/-- The colon makes a key of what is pending, or stands after an explicit or empty one. -/
def valueMark (lexer : Lexer) : Except Fault Lexer :=
  match lexer.keys.lookup lexer.flow with
  | some key =>
    let lexer := { lexer with keys := lexer.keys.filter (·.1 != lexer.flow), allowKey := false }
    let lexer := lexer.insert key.place .key
    let lexer :=
      if lexer.flow ≠ 0 then lexer
      else
        match lexer.deepen key.column with
        | some lexer => lexer.insert key.place .blockMappingStart
        | none => lexer
    .ok (lexer.take .value 1)
  | none => do
    let lexer ← (← lexer.openBlockHere .blockMappingStart).dropKey
    return { lexer with allowKey := lexer.flow == 0 }.take .value 1

/-- A token that starts a node and may start a key. -/
def node (lexer : Lexer) (read : Cursor → Except Fault (Token × Cursor)) : Except Fault Lexer := do
  let lexer ← lexer.markKey
  { lexer with allowKey := false }.add (read lexer.cursor)

def block (lexer : Lexer) (fold : Bool) : Except Fault Lexer := do
  let lexer ← lexer.dropKey
  { lexer with allowKey := true }.add (Token.readBlock fold lexer.indent lexer.cursor)

def plain (lexer : Lexer) : Except Fault Lexer := do
  let lexer ← lexer.markKey
  let (token, broke, cursor) := Token.readPlain (lexer.flow ≠ 0) (lexer.indent + 1) lexer.cursor
  return { lexer.push token with cursor, allowKey := broke }

def anchorOf (make : String → Token) (cursor : Cursor) : Except Fault (Token × Cursor) := do
  let (name, cursor) ← Token.readAnchor cursor
  return (make name, cursor)

def isIndicator (c : Char) : Bool :=
  Cursor.isBlankOrBreak c || "-?:,[]#&*!|>'\"%@".toList.contains c || c == '\x7b' || c == '\x7d' ||
    c.toNat == 0x60

/-- May a plain scalar start here? Some indicators may start one if no blank follows. -/
def startsPlain (lexer : Lexer) (c : Char) : Bool :=
  !isIndicator c ||
    (!lexer.cursor.endsAt 1 Cursor.isBlankOrBreak &&
      (c == '-' || (lexer.flow == 0 && (c == '?' || c == ':'))))

/-- Adds the token that starts with a character. -/
def fetchAt (lexer : Lexer) (c : Char) : Except Fault Lexer :=
  let cursor := lexer.cursor
  let blankNext := cursor.endsAt 1 Cursor.isBlankOrBreak
  if c == '%' && cursor.column == 0 then do (← lexer.settle).add (Token.readDirective cursor)
  else if cursor.column == 0 && cursor.atMark '-' then do return (← lexer.settle).take .documentStart 3
  else if cursor.column == 0 && cursor.atMark '.' then do return (← lexer.settle).take .documentEnd 3
  else if c == '[' then lexer.openFlow .flowSequenceStart
  else if c == '\x7b' then lexer.openFlow .flowMappingStart
  else if c == ']' then lexer.closeFlow .flowSequenceEnd
  else if c == '\x7d' then lexer.closeFlow .flowMappingEnd
  else if c == ',' then lexer.flowEntry
  else if c == '-' && blankNext then lexer.blockEntry
  else if c == '?' && (lexer.flow != 0 || blankNext) then lexer.keyMark
  else if c == ':' && (lexer.flow != 0 || blankNext) then lexer.valueMark
  else if c == '*' then lexer.node (anchorOf .alias)
  else if c == '&' then lexer.node (anchorOf .anchor)
  else if c == '!' then lexer.node Token.readTag
  else if c == '|' && lexer.flow == 0 then lexer.block false
  else if c == '>' && lexer.flow == 0 then lexer.block true
  else if c == '\'' then lexer.node (Token.readQuoted false)
  else if c == '"' then lexer.node (Token.readQuoted true)
  else if lexer.startsPlain c then lexer.plain
  else .error malformed

/-- Adds what comes next: the token after blanks and comments, or the end. -/
def fetch (fuel : Nat) (lexer : Lexer) : Except Fault Lexer := do
  let lexer ← (lexer.skipMark.skipToToken fuel).dropStaleKeys
  let lexer := lexer.unwind lexer.cursor.column
  match lexer.cursor.peek? with
  | none => return (← lexer.settle).push .streamEnd
  | some c => lexer.fetchAt c

/-- The tokens of a text. A fault ends them; those before it stand. -/
structure Tokens where
  tokens : List Token
  fault : Option Fault

/-- The tokens that stand, whatever comes next: those before all that may still turn out to be keys. -/
def settled (lexer : Lexer) : List Token :=
  let places := lexer.keys.filterMap fun (_, key) => if lexer.isStale key then none else some key.place
  match places.min? with
  | none => lexer.tokens.toList
  | some place => lexer.tokens.toList.take place

def scanFrom : (fuel : Nat) → Lexer → Tokens
  | 0, lexer => ⟨lexer.settled, some malformed⟩
  | fuel + 1, lexer =>
    match lexer.fetch (fuel + 1) with
    | .error fault => ⟨lexer.settled, some fault⟩
    | .ok next =>
      if next.tokens.back? = some .streamEnd then ⟨next.tokens.toList, none⟩ else scanFrom fuel next

/-- Every token takes at least one character, which bounds the steps. -/
def scan (text : List Char) : Tokens := scanFrom (text.length + 1) (start text)

end Lexer

end Linewise.Yaml
