import Linewise.Json

/-! Reading JSON values. Every reader takes the characters left and returns those it did not use. -/
namespace Linewise.Json

def shortEscape? : Char → Option Char
  | '"' => some '"'
  | '\\' => some '\\'
  | '/' => some '/'
  | 'b' => some '\x08'
  | 'f' => some '\x0c'
  | 'n' => some '\n'
  | 'r' => some '\r'
  | 't' => some '\t'
  | _ => none

def scalar? (n : Nat) : Option Char := if n.isValidChar then some (Char.ofNat n) else none

/-- The text up to its closing quotation mark. A pair of surrogates is one character. -/
def readText : List Char → Option (List Char × List Char)
  | [] => none
  | '"' :: rest => some ([], rest)
  | '\\' :: 'u' :: a :: b :: c :: d :: rest => do
    let high ← Text.hexNumber? [a, b, c, d]
    if 0xD800 ≤ high ∧ high < 0xDC00 then
      match rest with
      | '\\' :: 'u' :: e :: f :: g :: h :: rest =>
        let low ← Text.hexNumber? [e, f, g, h]
        let char ← scalar? (0x10000 + (high - 0xD800) * 0x400 + (low - 0xDC00))
        let (s, rest) ← readText rest
        some (char :: s, rest)
      | _ => none
    else
      let char ← scalar? high
      let (s, rest) ← readText rest
      some (char :: s, rest)
  | '\\' :: c :: rest => do
    let char ← shortEscape? c
    let (s, rest) ← readText rest
    some (char :: s, rest)
  | c :: rest => do
    let (s, rest) ← readText rest
    some (c :: s, rest)

def skipSpace (s : List Char) : List Char :=
  s.dropWhile fun c => c == ' ' || c == '\t' || c == '\n' || c == '\r'

def digitsOf (s : List Char) : List Char × List Char := s.span Char.isDigit

/-- The part after the point, if there is one. -/
def readFraction : List Char → Option (List Char) × List Char
  | '.' :: rest =>
    match digitsOf rest with
    | ([], _) => (none, '.' :: rest)
    | (digits, after) => (some digits, after)
  | rest => (none, rest)

def readExponent : List Char → Option Int × List Char
  | c :: rest =>
    if c == 'e' || c == 'E' then
      let (negative, unsigned) :=
        match rest with
        | '-' :: rest => (true, rest)
        | '+' :: rest => (false, rest)
        | rest => (false, rest)
      match digitsOf unsigned with
      | ([], _) => (none, c :: rest)
      | (digits, after) =>
        let size : Int := Nat.ofDigitChars 10 digits 0
        (some (if negative then -size else size), after)
    else (none, c :: rest)
  | [] => (none, [])

/-- A number without point and exponent is an integer. -/
def readNumber (s : List Char) : Option (Json × List Char) :=
  let (negative, s) :=
    match s with
    | '-' :: rest => (true, rest)
    | s => (false, s)
  match digitsOf s with
  | ([], _) => none
  | (whole, s) =>
    let (fraction, s) := readFraction s
    let (exponent, s) := readExponent s
    let size := Nat.ofDigitChars 10 (whole ++ fraction.getD []) 0
    if fraction.isNone && exponent.isNone then
      some (.int (if negative then -size else size), s)
    else
      let d : Decimal := ⟨negative, size, exponent.getD 0 - (fraction.getD []).length⟩
      some (.real d.toReal, s)

def readWord (word : String) (value : Json) (s : List Char) : Option (Json × List Char) :=
  if word.toList.isPrefixOf s then some (value, s.drop word.length) else none

mutual

def readValue : (fuel : Nat) → List Char → Option (Json × List Char)
  | 0, _ => none
  | fuel + 1, s =>
    match skipSpace s with
    | '"' :: rest => do
      let (s, rest) ← readText rest
      some (.text (String.ofList s), rest)
    | '[' :: rest =>
      match skipSpace rest with
      | ']' :: rest => some (.list [], rest)
      | rest => do
        let (items, rest) ← readItems fuel rest
        some (.list items, rest)
    | '\x7b' :: rest =>
      match skipSpace rest with
      | '\x7d' :: rest => some (.object [], rest)
      | rest => do
        let (fields, rest) ← readFields fuel rest
        some (.object fields, rest)
    | 't' :: rest => readWord "rue" (.bool true) rest
    | 'f' :: rest => readWord "alse" (.bool false) rest
    | 'n' :: rest => readWord "ull" .null rest
    | s => readNumber s

def readItems : (fuel : Nat) → List Char → Option (List Json × List Char)
  | 0, _ => none
  | fuel + 1, s => do
    let (item, rest) ← readValue fuel s
    match skipSpace rest with
    | ',' :: rest =>
      let (items, rest) ← readItems fuel rest
      some (item :: items, rest)
    | ']' :: rest => some ([item], rest)
    | _ => none

def readFields : (fuel : Nat) → List Char → Option (List (String × Json) × List Char)
  | 0, _ => none
  | fuel + 1, s =>
    match skipSpace s with
    | '"' :: rest => do
      let (name, rest) ← readText rest
      match skipSpace rest with
      | ':' :: rest =>
        let (value, rest) ← readValue fuel rest
        match skipSpace rest with
        | ',' :: rest =>
          let (fields, rest) ← readFields fuel rest
          some ((String.ofList name, value) :: fields, rest)
        | '\x7d' :: rest => some ([(String.ofList name, value)], rest)
        | _ => none
      | _ => none
    | _ => none

end

/-- The value a text writes, if the whole text writes one. No value nests or runs on beyond the length of
its text, which bounds the steps. -/
def parse? (s : String) : Option Json := do
  let (value, rest) ← readValue (2 * s.length + 2) s.toList
  if (skipSpace rest).isEmpty then some value else none

end Linewise.Json
