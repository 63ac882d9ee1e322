import Linewise.Text.Quoted

/-! Letters: characters, and the surrogates, codes that an escape can name though no character has them. A
text with surrogates can be quoted; it cannot be encoded. -/
namespace Linewise.Text

inductive Letter
  | char (c : Char)
  | surrogate (code : Nat)
  deriving DecidableEq, Repr

namespace Letter

def ofChars (s : List Char) : List Letter := s.map char

def ofString (s : String) : List Letter := ofChars s.toList

def char? : Letter → Option Char
  | char c => some c
  | surrogate _ => none

/-- The characters of a text without surrogates. -/
def chars? (s : List Letter) : Option (List Char) := s.mapM char?

/-- A character in place of a letter: a surrogate is replaced. -/
def toChar : Letter → Char
  | char c => c
  | surrogate _ => Char.ofNat 0xFFFD

def mapRunsFrom (change : List Char → List Char) (run : List Char) : List Letter → List Letter
  | [] => ofChars (change run.reverse)
  | char c :: rest => mapRunsFrom change (c :: run) rest
  | surrogate code :: rest =>
    ofChars (change run.reverse) ++ surrogate code :: mapRunsFrom change [] rest

/-- Changes every stretch of characters; the surrogates between them stay. -/
def mapRuns (change : List Char → List Char) (s : List Letter) : List Letter := mapRunsFrom change [] s

def encodeSurrogate (code : Nat) : List Char := '\\' :: 'u' :: hexDigits 4 code

/-- A quoted text. A surrogate is always escaped. -/
def quote (s : List Letter) : String :=
  let delimiter := Quoted.delimiter (s.filterMap char?)
  let encode : Letter → List Char
    | char c => Quoted.encodeChar isPrintable delimiter c
    | surrogate code => encodeSurrogate code
  String.ofList (delimiter :: s.flatMap encode ++ [delimiter])

/-- Why a text cannot be encoded: its first surrogates. -/
def unencodable (s : List Letter) : String :=
  let (before, rest) := s.span fun letter => letter.char?.isSome
  let found := rest.takeWhile fun letter => letter.char?.isNone
  let place := match found with
    | [surrogate code] =>
      "character '" ++ String.ofList (encodeSurrogate code) ++ "' in position " ++ toString before.length
    | _ => "characters in position " ++ toString before.length ++ "-" ++ toString (before.length + found.length - 1)
  "'utf-8' codec can't encode " ++ place ++ ": surrogates not allowed"

end Letter

end Linewise.Text
