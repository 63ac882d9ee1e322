import Linewise.Yaml.Cursor

/-! Tags: what kind of value a node stands for. The kind of a plain scalar is told from its text. -/
namespace Linewise.Yaml.Tag

def ofName (name : String) : String := "tag:yaml.org,2002:" ++ name

def null : String := ofName "null"
def bool : String := ofName "bool"
def int : String := ofName "int"
def float : String := ofName "float"
def binary : String := ofName "binary"
def timestamp : String := ofName "timestamp"
def text : String := ofName "str"
def sequence : String := ofName "seq"
def mapping : String := ofName "map"
def set : String := ofName "set"
def orderedMapping : String := ofName "omap"
def pairs : String := ofName "pairs"
def merge : String := ofName "merge"
def value : String := ofName "value"
def reserved : String := ofName "yaml"

def nullWords : List String := ["", "~", "null", "Null", "NULL"]

def boolWords : List String := [
  "yes", "Yes", "YES", "no", "No", "NO", "true", "True", "TRUE", "false", "False", "FALSE",
  "on", "On", "ON", "off", "Off", "OFF"]

def isOctalChar (c : Char) : Bool := '0' ≤ c && c ≤ '7' || c == '_'
def isBinaryChar (c : Char) : Bool := c == '0' || c == '1' || c == '_'
def isHexadecimalChar (c : Char) : Bool := (Text.hexValue? c).isSome || c == '_'
def isDecimalChar (c : Char) : Bool := c.isDigit || c == '_'

def unsigned : List Char → List Char
  | '-' :: rest => rest
  | '+' :: rest => rest
  | s => s

/-- Some characters, all of a kind. -/
def filled (p : Char → Bool) (s : List Char) : Bool := s ≠ [] && s.all p

/-- A digit and then digits, between which `_` may stand. -/
def isDecimal : List Char → Bool
  | c :: rest => c.isDigit && rest.all isDecimalChar
  | [] => false

/-- One or two digits below sixty. -/
def isSixtieth : List Char → Bool
  | [a] => a.isDigit
  | [a, b] => '0' ≤ a && a ≤ '5' && b.isDigit
  | _ => false

/-- The pieces of a list between the occurrences of a mark. -/
def split [BEq α] (mark : α) : List α → List (List α)
  | [] => [[]]
  | c :: rest =>
    if c == mark then [] :: split mark rest
    else
      match split mark rest with
      | [] => [[c]]
      | piece :: more => (c :: piece) :: more

/-- Numbers to the base sixty, `1:30`. -/
def isSexagesimal (s : List Char) : Bool :=
  match split ':' s with
  | first :: second :: more => isDecimal first && (second :: more).all isSixtieth
  | _ => false

def isInt (s : List Char) : Bool :=
  match unsigned s with
  | ['0'] => true
  | '0' :: 'b' :: rest => filled isBinaryChar rest
  | '0' :: 'x' :: rest => filled isHexadecimalChar rest
  | '0' :: rest => filled isOctalChar rest
  | rest => isDecimal rest || isSexagesimal rest

/-- Nothing, or an exponent, whose sign must be written. -/
def isExponent : List Char → Bool
  | [] => true
  | mark :: sign :: digits =>
    (mark == 'e' || mark == 'E') && (sign == '-' || sign == '+') && filled Char.isDigit digits
  | _ => false

def isFloat (s : List Char) : Bool :=
  let fraction (s : List Char) : Bool := isExponent (s.dropWhile isDecimalChar)
  let pointed :=
    match s with
    | '.' :: c :: rest => c.isDigit && fraction rest
    | _ => false
  let (whole, rest) := (unsigned s).span (· ≠ '.')
  let usual :=
    match rest with
    | _ :: rest => (isDecimal whole && fraction rest) || (isSexagesimal whole && rest.all isDecimalChar)
    | [] => false
  let infinite := [".inf", ".Inf", ".INF"].contains (String.ofList (unsigned s))
  let undefined := [".nan", ".NaN", ".NAN"].contains (String.ofList s)
  pointed || usual || infinite || undefined

/-- The parts of a point in time, as they are written. -/
structure TimeParts where
  year : List Char
  month : List Char
  day : List Char
  clock : Option (List Char × List Char × List Char)
  fraction : List Char
  zone : List Char

/-- Up to `most` digits, at least `least`. -/
def digits (least most : Nat) (s : List Char) : Option (List Char × List Char) :=
  let found := (s.take most).takeWhile Char.isDigit
  if least ≤ found.length then some (found, s.drop found.length) else none

def expect (c : Char) : List Char → Option (List Char)
  | d :: rest => if c == d then some rest else none
  | [] => none

def isTimeBlank (c : Char) : Bool := c == ' ' || c == '\t'

/-- `Z`, or a signed offset of hours and perhaps minutes, after blanks; or nothing. -/
def zoneOf (s : List Char) : Option (List Char) :=
  if s = [] then some []
  else
    match s.dropWhile isTimeBlank with
    | ['Z'] => some ['Z']
    | sign :: rest =>
      if sign == '-' || sign == '+' then do
        let (_, after) ← digits 1 2 rest
        match after with
        | [] => some (sign :: rest)
        | _ =>
          let (_, after) ← digits 2 2 (← expect ':' after)
          if after = [] then some (sign :: rest) else none
      else none
    | [] => none

/-- Reads a date, or a date and a time of day. -/
def timeParts? (s : List Char) : Option TimeParts := do
  let (year, s) ← digits 4 4 s
  let (month, s) ← digits 1 2 (← expect '-' s)
  let (day, s) ← digits 1 2 (← expect '-' s)
  if s = [] then return ⟨year, month, day, none, [], []⟩
  let s ←
    match s with
    | 'T' :: rest => some rest
    | 't' :: rest => some rest
    | c :: rest => if isTimeBlank c then some (rest.dropWhile isTimeBlank) else none
    | [] => none
  let (hour, s) ← digits 1 2 s
  let (minute, s) ← digits 2 2 (← expect ':' s)
  let (second, s) ← digits 2 2 (← expect ':' s)
  let (fraction, s) :=
    match s with
    | '.' :: rest => rest.span Char.isDigit
    | s => ([], s)
  let zone ← zoneOf s
  return ⟨year, month, day, some (hour, minute, second), fraction, zone⟩

/-- A lone date is written with two digits for month and day. -/
def isTimestamp (s : List Char) : Bool :=
  match timeParts? s with
  | none => false
  | some parts => parts.clock.isSome || (parts.month.length == 2 && parts.day.length == 2)

/-- The text without one final line feed, which does not tell kinds apart. -/
def withoutFinalBreak (s : List Char) : List Char :=
  if s.length > 1 && s.getLast? == some '\n' then s.dropLast else s

/-- The tag of a plain scalar. -/
def ofPlain (text : String) : String :=
  let chars := withoutFinalBreak text.toList
  let word := String.ofList chars
  if boolWords.contains word then bool
  else if isFloat chars then float
  else if isInt chars then int
  else if word = "<<" then merge
  else if nullWords.contains word then null
  else if isTimestamp chars then timestamp
  else if word = "=" then value
  else if ["!", "&", "*"].contains word then reserved
  else Tag.text

end Linewise.Yaml.Tag
