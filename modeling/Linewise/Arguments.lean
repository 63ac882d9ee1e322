/-! The words of a command line, sorted into options and positional words. -/
namespace Linewise

/-- What is wrong with a command line. -/
inductive Misuse
  | nothingGiven
  | unknownOption
  | badOption
  | wrongWords
  deriving DecidableEq, Repr

/-- How words are read: the options that take a value, whether options may follow positional words, and
whether an unknown option is just a word. Every command line also knows `--help`. -/
structure WordRules where
  options : List String
  mixed : Bool
  lenient : Bool

structure Words where
  values : List (String × String)
  help : Bool
  positional : List String
  deriving DecidableEq, Repr

namespace Words

/-- A word of two or more characters that starts with a dash. -/
def looksLikeOption (word : String) : Bool :=
  match word.toList with
  | '-' :: _ :: _ => true
  | _ => false

/-- The name of an option and the value written with it. -/
def splitOption (word : String) : String × Option String :=
  match word.toList.span (· ≠ '=') with
  | (name, _ :: value) => (String.ofList name, some (String.ofList value))
  | (name, []) => (String.ofList name, none)

def withValue (name value : String) (words : Words) : Words := { words with values := (name, value) :: words.values }
def withHelp (words : Words) : Words := { words with help := true }
def withWord (word : String) (words : Words) : Words := { words with positional := word :: words.positional }

/-- Sorts words. The value of an option may be any word. -/
def parse (rules : WordRules) : List String → Except Misuse Words
  | [] => .ok ⟨[], false, []⟩
  | word :: rest =>
    if word = "--" then .ok ⟨[], false, rest⟩
    else if looksLikeOption word then
      let (name, value) := splitOption word
      if name = "--help" then
        match value with
        | some _ => .error .badOption
        | none => withHelp <$> parse rules rest
      else if rules.options.contains name then
        match value, rest with
        | some value, rest => withValue name value <$> parse rules rest
        | none, value :: rest => withValue name value <$> parse rules rest
        | none, [] => .error .badOption
      else if rules.lenient then withWord word <$> parse rules rest
      else .error .unknownOption
    else if rules.mixed then withWord word <$> parse rules rest
    else .ok ⟨[], false, word :: rest⟩

/-- The value of an option: the last one given. -/
def value? (words : Words) (name : String) : Option String :=
  ((words.values.filter (·.1 = name)).getLast?).map Prod.snd

end Words

end Linewise
