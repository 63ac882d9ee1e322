import Linewise.Text.Letter
import Linewise.Yaml.Cursor

/-! The tokens of YAML. -/
namespace Linewise.Yaml

inductive Directive
  | version (major minor : Nat)
  | handle (handle uri : String)
  | other
  deriving DecidableEq, Repr

inductive Token
  | streamEnd
  | directive (directive : Directive)
  | documentStart
  | documentEnd
  | blockSequenceStart
  | blockMappingStart
  | blockEnd
  | flowSequenceStart
  | flowSequenceEnd
  | flowMappingStart
  | flowMappingEnd
  | blockEntry
  | flowEntry
  | key
  | value
  | alias (name : String)
  | anchor (name : String)
  | tag (handle : Option String) (suffix : String)
  | scalar (text : List Text.Letter) (plain : Bool)
  deriving DecidableEq, Repr

end Linewise.Yaml
