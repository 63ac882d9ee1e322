import Linewise.Encoding
import Linewise.FileTree
import Linewise.Level
import Linewise.Text.Stream
import Linewise.Value
import Linewise.Yaml.Object

/-! Settings and where they come from. A value on the command line comes before one in the environment,
that before one in the configuration file, and that before the default; each setting is decided for
itself. -/
namespace Linewise

inductive SettingKey
  | logLevel
  | logDirectory
  | reportDirectory
  | encoding
  deriving DecidableEq, Repr

namespace SettingKey

def all : List SettingKey := [logLevel, logDirectory, reportDirectory, encoding]

def name : SettingKey → String
  | logLevel => "log_level"
  | logDirectory => "log_dir"
  | reportDirectory => "report_dir"
  | encoding => "encoding"

/-- The environment variable of a setting. -/
def environmentName : SettingKey → String
  | logLevel => "LINEPIPE_LOG_LEVEL"
  | logDirectory => "LINEPIPE_LOG_DIR"
  | reportDirectory => "LINEPIPE_REPORT_DIR"
  | encoding => "LINEPIPE_ENCODING"

/-- The default; no directory is set. -/
def default : SettingKey → Option String
  | logLevel => some "INFO"
  | logDirectory => none
  | reportDirectory => none
  | encoding => some "utf-8"

end SettingKey

structure Settings where
  logLevel : String
  logDirectory : Option String
  reportDirectory : Option String
  encoding : String
  deriving DecidableEq, Repr

/-- A configuration: the entries of a mapping, by the numbers of their nodes. -/
structure Config where
  valuation : Yaml.Valuation
  entries : List (Nat × Nat)

namespace Config

open Text (Letter)

def empty : Config := ⟨⟨#[], #[], []⟩, []⟩

/-- The node of a setting's value, if the configuration has one. Entries with other keys do not matter. -/
def node? (config : Config) (key : SettingKey) : Option Nat :=
  let isKey (node : Nat) := config.valuation.object? node = some (.scalar (.text (Letter.ofString key.name)))
  (config.entries.find? fun entry => isKey entry.1).map Prod.snd

/-- What a configuration says about a setting: a text, the fault that writing it meets, or that there is none. -/
def setting? (config : Config) (key : SettingKey) : Option (Except Fault (Option (List Letter))) :=
  (config.node? key).map fun node =>
    match config.valuation.object? node with
    | some (.scalar .null) => .ok none
    | _ => some <$> config.valuation.render node

/-- The mapping that a text is. Any other text is taken for an empty one. -/
def ofText (text : List Char) : Except Fault Config := do
  match ← Yaml.load text with
  | none => return empty
  | some (valuation, root) =>
    match valuation.object? root with
    | some (.mapping entries) => return ⟨valuation, entries⟩
    | _ => return empty

/-- Reads a configuration file. Where there is no file there are no settings. -/
def read (files : FileTree) (path : String) : Except Fault Config :=
  let path := (Path.parse path).render
  if path.toList.contains '\x00' then .ok empty
  else
    match files.resolve path with
    | .ok (.entry _ (.file bytes)) => do ofText (← (Text.Stream.decode bytes).mapError .undecodable)
    | .ok _ => .ok empty
    | .error .nameTooLong => .error (Refusal.toFault .nameTooLong path)
    | .error _ => .ok empty

/-- No path, or an empty one, means no configuration. -/
def readOptional (files : FileTree) : Option String → Except Fault Config
  | none | some "" => .ok empty
  | some path => read files path

end Config

/-- Environment variables. A blank one counts as not set. -/
abbrev Environment := List (String × String)

def Environment.setting? (environment : Environment) (key : SettingKey) : Option String :=
  match environment.lookup key.environmentName with
  | none => none
  | some value => if Text.trim value = "" then none else some (Text.trim value)

/-- Values given on the command line, by the name of the setting. -/
abbrev Overrides := List (String × Value)

namespace Overrides

def isGiven : Value → Bool
  | .none => false
  | _ => true

/-- A value as a text. -/
def written : Value → Except Fault String
  | .int n => IntegerFormat.render n
  | value => .ok value.render

def setting? (overrides : Overrides) (key : SettingKey) : Option (Except Fault String) :=
  match (overrides.filter fun (name, value) => name = key.name && isGiven value).getLast? with
  | some (_, value) => some (written value)
  | none => none

end Overrides

namespace Settings

open Text (Letter)

/-- The value of one setting; a missing text means that it was set to nothing. A value that cannot be written
is a fault only where nothing comes before it. -/
def choose (config : Config) (environment : Environment) (overrides : Overrides) (key : SettingKey) :
    Except Fault (Option (List Letter)) :=
  match overrides.setting? key with
  | some value => (fun text => some (Letter.ofString text)) <$> value
  | none =>
    match environment.setting? key with
    | some value => .ok (some (Letter.ofString value))
    | none =>
      match config.setting? key with
      | some value => value
      | none => .ok (key.default.map Letter.ofString)

/-- Settings as they were chosen, before any of them is used. -/
structure Draft where
  logLevel : List Letter
  logDirectory : Option (List Letter)
  reportDirectory : Option (List Letter)
  encoding : List Letter

def merge (config : Config) (environment : Environment) (overrides : Overrides) : Except Fault Draft := do
  let choose := choose config environment overrides
  let logLevel ← choose .logLevel
  let logDirectory ← choose .logDirectory
  let reportDirectory ← choose .reportDirectory
  let encoding ← choose .encoding
  let nothing := Letter.ofString "None"
  return ⟨logLevel.getD nothing, logDirectory, reportDirectory, encoding.getD nothing⟩

/-- The characters of a text that is put to use. A surrogate cannot be encoded. -/
def usable (text : List Letter) : Except Fault String :=
  match Letter.chars? text with
  | some chars => .ok (String.ofList chars)
  | none => .error (.plain .unencodable [.text (Letter.unencodable text)])

/-- The name of a log level. No level has a surrogate in its name. -/
def levelName (text : List Letter) : Except Fault String :=
  let name := String.ofList (text.map Letter.toChar)
  if (Letter.chars? text).isSome ∧ (Level.named? name).isSome then .ok name
  else .error (.settings (Level.unsupported name))

/-- Lines are cut at line feeds before they are read, so an encoding must write a line break as one. -/
def checkEncoding (encoding : String) : Except Fault Unit := do
  let unsupported := "Unsupported encoding: " ++ encoding
  match Encoding.find encoding with
  | .ok _ => pure ()
  | .error fault => if fault.isA .lookup then throw (.settings unsupported) else throw fault
  let lineBreak ← Encoding.lineBreak encoding
  if lineBreak ≠ [0x0A] then
    throw (.settings (unsupported ++ " (line terminator is not a single \\n byte)"))

/-- Checks what was chosen: first the log level, then the encoding. No directory has a surrogate in its name. -/
def Draft.check (draft : Draft) : Except Fault Settings := do
  let logLevel ← levelName draft.logLevel
  let encoding ← usable draft.encoding
  checkEncoding encoding
  let logDirectory ← draft.logDirectory.mapM usable
  let reportDirectory ← draft.reportDirectory.mapM usable
  return ⟨logLevel, logDirectory, reportDirectory, encoding⟩

/-- The layers that had something to say, whether or not it was heard. -/
def sources (config : Config) (environment : Environment) (overrides : Overrides) : List String :=
  (if SettingKey.all.any fun key => (config.node? key).isSome then ["config"] else []) ++
    (if SettingKey.all.any fun key => (environment.setting? key).isSome then ["env"] else []) ++
    (if overrides.any fun (_, value) => Overrides.isGiven value then ["cli"] else [])

structure Loaded where
  settings : Settings
  sources : List String

/-- Chooses the settings and checks them. -/
def settle (config : Config) (environment : Environment) (overrides : Overrides) : Except Fault Loaded := do
  let draft ← merge config environment overrides
  let settings ← draft.check
  return ⟨settings, sources config environment overrides⟩

def load (files : FileTree) (environment : Environment) (configPath : Option String) (overrides : Overrides) :
    Except Fault Loaded := do
  settle (← Config.readOptional files configPath) environment overrides

end Settings

end Linewise
