import Linewise.Proofs.Decoding
import Linewise.Settings
import Mathlib.Data.List.Nodup

/-! Which layer decides a setting. The command line comes before the environment, that before the configuration, and
that before the default; each setting is decided by what the layers say of it alone. All are written as texts before
the first is checked, and the log level is the first to be. -/
namespace Linewise

open Text (Letter)

theorem exists_of_bind_ok {ε α β : Type} {first : Except ε α} {next : α → Except ε β} {result : β}
    (ok : first >>= next = .ok result) : ∃ value, first = .ok value ∧ next value = .ok result := by
  cases first with
  | error fault => cases ok
  | ok value => exact ⟨value, rfl, ok⟩

theorem cases_of_bind_error {ε α β : Type} {first : Except ε α} {next : α → Except ε β} {fault : ε}
    (failed : first >>= next = .error fault) :
    first = .error fault ∨ ∃ value, first = .ok value ∧ next value = .error fault := by
  cases first with
  | error other => exact .inl (congrArg Except.error (Except.error.inj failed))
  | ok value => exact .inr ⟨value, rfl, failed⟩

theorem eq_error_of_map_error {ε α β : Type} {change : α → β} {result : Except ε α} {fault : ε}
    (failed : change <$> result = .error fault) : result = .error fault := by
  cases result with
  | error other => cases failed; rfl
  | ok value => cases failed

theorem Text.Letter.eq_ofString_of_chars? {text : List Letter} {chars : List Char} (read : chars? text = some chars) :
    text = ofString (String.ofList chars) := by
  unfold ofString ofChars
  rw [String.toList_ofList]
  induction text generalizing chars with
  | nil =>
    cases read
    rfl
  | cons letter text ih =>
    simp only [chars?, List.mapM_cons, Option.bind_eq_bind, Option.bind_eq_some_iff] at read
    obtain ⟨c, isChar, rest, later, ends⟩ := read
    cases ends
    cases letter with
    | surrogate code => cases isChar
    | char other =>
      cases isChar
      rw [List.map_cons, ← ih later]

theorem Text.Letter.map_toChar_ofString (text : String) : (ofString text).map toChar = text.toList := by
  rw [ofString, ofChars, List.map_map]
  exact List.map_id text.toList

theorem Text.Letter.ofString_injective : Function.Injective ofString := by
  intro text other same
  have chars := congrArg (List.map toChar) same
  rw [map_toChar_ofString, map_toChar_ofString] at chars
  exact String.toList_injective chars

theorem Text.Letter.eq_ofString_of_isSome {text : List Letter} (proper : (chars? text).isSome) :
    text = ofString (String.ofList (text.map toChar)) := by
  obtain ⟨chars, read⟩ := Option.isSome_iff_exists.mp proper
  rw [eq_ofString_of_chars? read, map_toChar_ofString, String.ofList_toList]

/-- A log level is accepted by its name, and no name has a surrogate. -/
def Level.Accepts (text : List Letter) : Prop := ∃ name, text = Letter.ofString name ∧ (named? name).isSome

/-- Where a text is needed, nothing is a text of its own. -/
def SettingKey.nothing : SettingKey → Option (List Letter)
  | logLevel | encoding => some (Letter.ofString "None")
  | logDirectory | reportDirectory => none

namespace Overrides

theorem isGiven_iff {value : Value} : isGiven value = true ↔ value ≠ .none := by
  cases value <;> simp [isGiven]

/-- In a dictionary at most one entry has a name. -/
theorem filter_of_nodup {overrides : Overrides} (dictionary : (overrides.map Prod.fst).Nodup) (name : String) :
    overrides.filter (fun (other, value) => other = name && isGiven value) =
      if isGiven ((overrides.lookup name).getD .none) then [(name, (overrides.lookup name).getD .none)] else [] := by
  induction overrides with
  | nil => rfl
  | cons entry overrides ih =>
    obtain ⟨other, value⟩ := entry
    obtain ⟨fresh, distinct⟩ := List.nodup_cons.mp dictionary
    rw [List.filter_cons, ih distinct, List.lookup_cons]
    by_cases same : other = name
    · subst same
      have unnamed : List.lookup other overrides = none := by
        rw [List.lookup_eq_none_iff]
        intro entry member
        have inside : entry.1 ∈ overrides.map Prod.fst := List.mem_map_of_mem member
        exact bne_iff_ne.mpr fun same => fresh (same ▸ inside)
      rw [unnamed, beq_self_eq_true]
      cases value <;> simp [isGiven]
    · rw [beq_eq_false_iff_ne.mpr (Ne.symm same)]
      simp [same]

theorem setting?_of_nodup {overrides : Overrides} (dictionary : (overrides.map Prod.fst).Nodup) (key : SettingKey) :
    overrides.setting? key = (some ((overrides.lookup key.name).getD .none)).bind
      fun value => if isGiven value then some (written value) else none := by
  unfold setting?
  rw [filter_of_nodup dictionary]
  cases (overrides.lookup key.name).getD .none <;> rfl

end Overrides

theorem Environment.setting?_eq (environment : Environment) (key : SettingKey) :
    environment.setting? key = (some (Text.trim ((environment.lookup key.environmentName).getD ""))).bind
      fun text => if text = "" then none else some text := by
  unfold setting?
  cases environment.lookup key.environmentName with
  | none => rfl
  | some text => rw [Option.bind_some, Option.getD_some]

namespace Settings

/-- What a setting comes to, from what each layer says of it: the command line, the environment and the configuration,
whose nodes are valued. -/
inductive Decides (valuation : Yaml.Valuation) (key : SettingKey) :
    Option Value → Option String → Option Nat → Except Fault (Option (List Letter)) → Prop
  | commandLine {value : Value} {inherited : Option String} {node : Option Nat} (given : value ≠ .none) :
      Decides valuation key (some value) inherited node
        ((fun text => some (Letter.ofString text)) <$> Overrides.written value)
  | environment {override : Option Value} {text : String} {node : Option Nat}
      (silent : override.getD .none = .none) (filled : Text.trim text ≠ "") :
      Decides valuation key override (some text) node (.ok (some (Letter.ofString (Text.trim text))))
  | config {override : Option Value} {inherited : Option String} {node : Nat}
      (silent : override.getD .none = .none) (blank : Text.trim (inherited.getD "") = "")
      (set : valuation.object? node ≠ some (.scalar .null)) :
      Decides valuation key override inherited (some node) (some <$> valuation.render node)
  | null {override : Option Value} {inherited : Option String} {node : Nat}
      (silent : override.getD .none = .none) (blank : Text.trim (inherited.getD "") = "")
      (unset : valuation.object? node = some (.scalar .null)) :
      Decides valuation key override inherited (some node) (.ok key.nothing)
  | default {override : Option Value} {inherited : Option String}
      (silent : override.getD .none = .none) (blank : Text.trim (inherited.getD "") = "") :
      Decides valuation key override inherited none (.ok (key.default.map Letter.ofString))

/-- What is chosen for a setting, with nothing made a text where one is needed. -/
def chosen (config : Config) (environment : Environment) (overrides : Overrides) (key : SettingKey) :
    Except Fault (Option (List Letter)) :=
  (fun value => value.or key.nothing) <$> choose config environment overrides key

variable {config : Config} {environment : Environment} {overrides : Overrides}

theorem decides_chosen (dictionary : (overrides.map Prod.fst).Nodup) (key : SettingKey) :
    Decides config.valuation key (overrides.lookup key.name) (environment.lookup key.environmentName)
      (config.node? key) (chosen config environment overrides key) := by
  unfold chosen choose
  rw [Overrides.setting?_of_nodup dictionary, environment.setting?_eq]
  generalize overrides.lookup key.name = override
  generalize environment.lookup key.environmentName = inherited
  rw [Option.bind_some, Option.bind_some]
  by_cases given : Overrides.isGiven (override.getD .none) = true
  · rw [if_pos given]
    cases override with
    | none => cases given
    | some value =>
      have same : (fun value => value.or key.nothing) <$> (fun text => some (Letter.ofString text)) <$>
          Overrides.written value = (fun text => some (Letter.ofString text)) <$> Overrides.written value := by
        cases Overrides.written value <;> rfl
      rw [Option.getD_some] at given ⊢
      exact same ▸ .commandLine (Overrides.isGiven_iff.mp given)
  -- The command line is silent; the environment speaks unless it is blank, and only then the configuration.
  have silent : override.getD .none = .none := not_not.mp (Overrides.isGiven_iff.not.mp given)
  rw [if_neg given]
  by_cases blank : Text.trim (inherited.getD "") = ""
  · rw [if_pos blank]
    unfold Config.setting?
    cases config.node? key with
    | none =>
      have same : (key.default.map Letter.ofString).or key.nothing = key.default.map Letter.ofString := by
        cases key <;> rfl
      have decided : Decides config.valuation key override inherited none _ := .default silent blank
      rwa [← same] at decided
    | some node =>
      by_cases unset : config.valuation.object? node = some (.scalar .null)
      · simp only [Option.map_some, unset]
        exact .null silent blank unset
      · have same : (fun value => value.or key.nothing) <$> some <$> config.valuation.render node =
            some <$> config.valuation.render node := by
          cases config.valuation.render node <;> rfl
        have decided : Decides config.valuation key override inherited (some node) _ := .config silent blank unset
        rw [← same] at decided
        simp only [Option.map_some]
        exact decided
  · rw [if_neg blank]
    cases inherited with
    | none => exact absurd rfl blank
    | some text => exact .environment silent blank

theorem Decides.unique {valuation : Yaml.Valuation} {key : SettingKey} {override : Option Value}
    {inherited : Option String} {node : Option Nat} {result other : Except Fault (Option (List Letter))}
    (decided : Decides valuation key override inherited node result)
    (decided' : Decides valuation key override inherited node other) : result = other := by
  cases decided with
  | commandLine given =>
    cases decided' with
    | commandLine => rfl
    | environment silent | config silent | null silent | default silent => exact absurd silent given
  | environment silent filled =>
    cases decided' with
    | commandLine given => exact absurd silent given
    | environment => rfl
    | config _ blank | null _ blank | default _ blank => exact absurd blank filled
  | config silent blank set =>
    cases decided' with
    | commandLine given => exact absurd silent given
    | environment _ filled => exact absurd blank filled
    | config => rfl
    | null _ _ unset => exact absurd unset set
  | null silent blank unset =>
    cases decided' with
    | commandLine given => exact absurd silent given
    | environment _ filled => exact absurd blank filled
    | config _ _ set => exact absurd unset set
    | null => rfl
  | default silent blank =>
    cases decided' with
    | commandLine given => exact absurd silent given
    | environment _ filled => exact absurd blank filled
    | default => rfl

theorem decides_iff (dictionary : (overrides.map Prod.fst).Nodup) {key : SettingKey}
    {result : Except Fault (Option (List Letter))} :
    Decides config.valuation key (overrides.lookup key.name) (environment.lookup key.environmentName)
      (config.node? key) result ↔ result = chosen config environment overrides key := by
  constructor
  · exact fun decided => decided.unique (decides_chosen dictionary key)
  · rintro rfl
    exact decides_chosen dictionary key

def Draft.value (draft : Draft) : SettingKey → Option (List Letter)
  | .logLevel => some draft.logLevel
  | .logDirectory => draft.logDirectory
  | .reportDirectory => draft.reportDirectory
  | .encoding => some draft.encoding

/-- A draft holds what is chosen for each setting. -/
theorem chosen_of_merge {draft : Draft} (merged : merge config environment overrides = .ok draft) (key : SettingKey) :
    chosen config environment overrides key = .ok (draft.value key) := by
  have orSome (value : Option (List Letter)) (text : List Letter) : value.or (some text) = some (value.getD text) := by
    cases value <;> rfl
  obtain ⟨logLevel, level, merged⟩ := exists_of_bind_ok merged
  obtain ⟨logDirectory, logs, merged⟩ := exists_of_bind_ok merged
  obtain ⟨reportDirectory, reports, merged⟩ := exists_of_bind_ok merged
  obtain ⟨encoding, encoded, merged⟩ := exists_of_bind_ok merged
  cases merged
  unfold chosen
  cases key with
  | logLevel => rw [level]; exact congrArg Except.ok (orSome _ _)
  | logDirectory => rw [logs]; exact congrArg Except.ok Option.or_none
  | reportDirectory => rw [reports]; exact congrArg Except.ok Option.or_none
  | encoding => rw [encoded]; exact congrArg Except.ok (orSome _ _)

/-- Only a setting that cannot be written stands in the way of a draft. -/
theorem exists_merge (written : ∀ key, ∃ value, chosen config environment overrides key = .ok value) :
    ∃ draft, merge config environment overrides = .ok draft := by
  have raw (key : SettingKey) : ∃ value, choose config environment overrides key = .ok value := by
    obtain ⟨value, ok⟩ := written key
    unfold chosen at ok
    cases choice : choose config environment overrides key with
    | error fault => rw [choice] at ok; cases ok
    | ok value => exact ⟨value, rfl⟩
  obtain ⟨logLevel, level⟩ := raw .logLevel
  obtain ⟨logDirectory, logs⟩ := raw .logDirectory
  obtain ⟨reportDirectory, reports⟩ := raw .reportDirectory
  obtain ⟨encoding, encoded⟩ := raw .encoding
  simp only [merge, level, logs, reports, encoded]
  exact ⟨_, rfl⟩

theorem eq_ofString_of_usable {text : List Letter} {name : String} (used : usable text = .ok name) :
    text = Letter.ofString name := by
  unfold usable at used
  split at used
  next chars read =>
    cases used
    exact Letter.eq_ofString_of_chars? read
  next => cases used

theorem eq_ofString_of_mapM_usable {text : Option (List Letter)} {name : Option String}
    (used : text.mapM usable = .ok name) : text = name.map Letter.ofString := by
  cases text with
  | none =>
    cases used
    rfl
  | some letters =>
    obtain ⟨chars, read, rest⟩ := exists_of_bind_ok used
    cases rest
    rw [eq_ofString_of_usable read]
    rfl

theorem accepted_of_levelName {text : List Letter} {name : String} (named : levelName text = .ok name) :
    text = Letter.ofString name ∧ (Level.named? name).isSome := by
  by_cases known : (Letter.chars? text).isSome ∧ (Level.named? (String.ofList (text.map Letter.toChar))).isSome
  · rw [levelName, if_pos known] at named
    cases named
    exact ⟨Letter.eq_ofString_of_isSome known.1, known.2⟩
  · rw [levelName, if_neg known] at named
    cases named

theorem levelName_of_refused {text : List Letter} (refused : ¬ Level.Accepts text) :
    levelName text = .error (.settings (Level.unsupported (String.ofList (text.map Letter.toChar)))) := by
  refine if_neg fun known => refused ?_
  exact ⟨_, Letter.eq_ofString_of_isSome known.1, known.2⟩

def value (settings : Settings) : SettingKey → Option String
  | .logLevel => some settings.logLevel
  | .logDirectory => settings.logDirectory
  | .reportDirectory => settings.reportDirectory
  | .encoding => some settings.encoding

/-- Checked settings are what was drafted, and their log level is known. -/
theorem Draft.value_of_check {draft : Draft} {settings : Settings} (checked : draft.check = .ok settings) :
    (∀ key, draft.value key = (settings.value key).map Letter.ofString) ∧ (Level.named? settings.logLevel).isSome := by
  obtain ⟨logLevel, level, checked⟩ := exists_of_bind_ok checked
  obtain ⟨encoding, used, checked⟩ := exists_of_bind_ok checked
  obtain ⟨-, -, checked⟩ := exists_of_bind_ok checked
  obtain ⟨logDirectory, logs, checked⟩ := exists_of_bind_ok checked
  obtain ⟨reportDirectory, reports, checked⟩ := exists_of_bind_ok checked
  cases checked
  obtain ⟨levelText, accepted⟩ := accepted_of_levelName level
  refine ⟨?_, accepted⟩
  intro key
  cases key with
  | logLevel => exact congrArg some levelText
  | logDirectory => exact eq_ofString_of_mapM_usable logs
  | reportDirectory => exact eq_ofString_of_mapM_usable reports
  | encoding => exact congrArg some (eq_ofString_of_usable used)

theorem Draft.check_of_refused {draft : Draft} (refused : ¬ Level.Accepts draft.logLevel) :
    draft.check =
      .error (.settings (Level.unsupported (String.ofList (draft.logLevel.map Letter.toChar)))) := by
  rw [check, levelName_of_refused refused]
  rfl

/-- What has been settled was chosen, checked, and traced to its layers. -/
theorem of_settle {loaded : Loaded} (settled : settle config environment overrides = .ok loaded) :
    (∀ key, chosen config environment overrides key = .ok ((loaded.settings.value key).map Letter.ofString)) ∧
      (Level.named? loaded.settings.logLevel).isSome ∧ loaded.sources = sources config environment overrides := by
  obtain ⟨draft, merged, settled⟩ := exists_of_bind_ok settled
  obtain ⟨settings, checked, settled⟩ := exists_of_bind_ok settled
  cases settled
  obtain ⟨values, accepted⟩ := draft.value_of_check checked
  refine ⟨?_, accepted, rfl⟩
  intro key
  rw [← values key]
  exact chosen_of_merge merged key

theorem load_of_read {files : FileTree} {configPath : Option String}
    (read : Config.readOptional files configPath = .ok config) :
    load files environment configPath overrides = settle config environment overrides := by
  rw [load, read]
  rfl

/-- A directory that cannot be written as a text ends it before anything is checked. -/
theorem settle_of_unwritten {level : Option (List Letter)} {fault : Fault}
    (written : chosen config environment overrides .logLevel = .ok level)
    (unwritten : chosen config environment overrides .logDirectory = .error fault) :
    settle config environment overrides = .error fault := by
  unfold chosen at written unwritten
  cases first : choose config environment overrides .logLevel with
  | error other => rw [first] at written; cases written
  | ok text =>
    cases second : choose config environment overrides .logDirectory with
    | ok other => rw [second] at unwritten; cases unwritten
    | error other =>
      rw [second] at unwritten
      cases unwritten
      simp only [settle, merge, first, second]
      rfl

theorem mem_layers (config environment commandLine : Bool) :
    let layers := (if config then ["config"] else []) ++ (if environment then ["env"] else []) ++
      (if commandLine then ["cli"] else [])
    layers.Sublist ["config", "env", "cli"] ∧ ("config" ∈ layers ↔ config = true) ∧
      ("env" ∈ layers ↔ environment = true) ∧ ("cli" ∈ layers ↔ commandLine = true) := by
  cases config <;> cases environment <;> cases commandLine <;> decide

/-- The layers that are listed, in their order, are those that said something of any setting. -/
structure Traces (config : Config) (environment : Environment) (overrides : Overrides) (layers : List String) :
    Prop where
  ordered : layers.Sublist ["config", "env", "cli"]
  config : "config" ∈ layers ↔ ∃ key, config.node? key ≠ none
  environment : "env" ∈ layers ↔
    ∃ key : SettingKey, ∃ text, environment.lookup key.environmentName = some text ∧ Text.trim text ≠ ""
  commandLine : "cli" ∈ layers ↔ ∃ name value, (name, value) ∈ overrides ∧ value ≠ .none

theorem traces_sources (config : Config) (environment : Environment) (overrides : Overrides) :
    Traces config environment overrides (sources config environment overrides) := by
  have member (key : SettingKey) : key ∈ SettingKey.all := by cases key <;> decide
  obtain ⟨ordered, fromConfig, fromEnvironment, fromCommandLine⟩ := mem_layers
    (SettingKey.all.any fun key => (config.node? key).isSome)
    (SettingKey.all.any fun key => (environment.setting? key).isSome)
    (overrides.any fun (_, value) => Overrides.isGiven value)
  refine ⟨ordered, fromConfig.trans ?_, fromEnvironment.trans ?_, fromCommandLine.trans ?_⟩
  · simp [member, Option.isSome_iff_ne_none]
  · simp only [List.any_eq_true, member, true_and]
    refine exists_congr fun key => ?_
    unfold Environment.setting?
    cases environment.lookup key.environmentName with
    | none => simp
    | some text => by_cases blank : Text.trim text = "" <;> simp [blank]
  · simp [Overrides.isGiven_iff]

/-- How settings are loaded from a configuration that can be read and from a dictionary of values on the command line.
What is loaded is, for each setting, what its layers decide, and the layers are listed that said something. And a log
level that is not accepted is refused as such, whichever layer it comes from, if every setting can be written. -/
theorem load_follows_priority {files : FileTree} {configPath : Option String}
    (dictionary : (overrides.map Prod.fst).Nodup) (read : Config.readOptional files configPath = .ok config) :
    let decided (key : SettingKey) := Decides config.valuation key (overrides.lookup key.name)
      (environment.lookup key.environmentName) (config.node? key)
    (∀ loaded, load files environment configPath overrides = .ok loaded →
      (∀ key result, decided key result ↔ result = .ok ((loaded.settings.value key).map Letter.ofString)) ∧
      Traces config environment overrides loaded.sources) ∧
    ∀ level, decided .logLevel (.ok (some level)) → ¬ Level.Accepts level →
      (∀ key, ∃ value, decided key (.ok value)) →
      load files environment configPath overrides =
        .error (.settings (Level.unsupported (String.ofList (level.map Letter.toChar)))) := by
  intro decided
  rw [load_of_read read]
  refine ⟨?_, ?_⟩
  · intro loaded settled
    obtain ⟨values, -, layers⟩ := of_settle settled
    refine ⟨fun key result => ?_, layers ▸ traces_sources config environment overrides⟩
    rw [← values key]
    exact decides_iff dictionary
  · intro level decidedLevel refused written
    obtain ⟨draft, merged⟩ := exists_merge fun key =>
      (written key).imp fun value decision => ((decides_iff dictionary).mp decision).symm
    have same : Except.ok (some level) = .ok (some draft.logLevel) :=
      ((decides_iff dictionary).mp decidedLevel).trans (chosen_of_merge merged .logLevel)
    cases same
    simp only [settle, merged, bind, Except.bind, Draft.check_of_refused refused]

theorem not_accepts_loud : ¬ Level.Accepts (Letter.ofString "LOUD") := by
  rintro ⟨name, same, accepted⟩
  rw [← Letter.ofString_injective same] at accepted
  revert accepted
  decide +kernel

deriving instance DecidableEq for Loaded

/-- Each setting from another layer; without the command line, the log level is that of the file. -/
theorem load_follows_priority_layers :
    let files : FileTree :=
      ⟨[(["c"], .file (Text.Utf8.encode "log_level: LOUD\nlog_dir: 7\nreport_dir:\nother: x\n".toList))], []⟩
    let environment : Environment := [("LINEPIPE_LOG_LEVEL", " "), ("LINEPIPE_ENCODING", " latin-1 ")]
    let overrides : Overrides := [("log_level", .text "debug"), ("log_dir", .none)]
    ∃ config, Config.readOptional files (some "c") = .ok config ∧
      load files environment (some "c") overrides =
        .ok ⟨⟨"debug", some "7", none, "latin-1"⟩, ["config", "env", "cli"]⟩ ∧
      Decides config.valuation .logDirectory (some .none) none (config.node? .logDirectory)
        (.ok (some (Letter.ofString "7"))) ∧
      load files environment (some "c") [] = .error (.settings "Unsupported log level: LOUD") := by
  intro files environment overrides
  have found : (Config.readOptional files (some "c")).toOption.map (fun config =>
      SettingKey.all.map fun key => (chosen config environment [] key).toOption) =
      some [some (some (Letter.ofString "LOUD")), some (some (Letter.ofString "7")), some none,
        some (some (Letter.ofString "latin-1"))] := by decide +kernel
  cases read : Config.readOptional files (some "c") with
  | error fault => rw [read] at found; cases found
  | ok config =>
    rw [read] at found
    have choices : SettingKey.all.map (fun key => (chosen config environment [] key).toOption) = _ :=
      Option.some.inj found
    simp only [SettingKey.all, List.map_cons, List.cons.injEq] at choices
    obtain ⟨level, logs, reports, encoded, -⟩ := choices
    have settled : load files environment (some "c") overrides =
        .ok ⟨⟨"debug", some "7", none, "latin-1"⟩, ["config", "env", "cli"]⟩ := eq_ok_of_toOption (by decide +kernel)
    have decided := ((load_follows_priority (by decide) read).1 _ settled).1 .logDirectory
    have silent : (([] : Overrides).map Prod.fst).Nodup := List.nodup_nil
    have refused : load files environment (some "c") [] =
        .error (.settings (Level.unsupported (String.ofList ((Letter.ofString "LOUD").map Letter.toChar)))) := by
      refine (load_follows_priority silent read).2 _ ?_ not_accepts_loud ?_
      · exact (decides_iff silent).mpr (eq_ok_of_toOption level).symm
      · intro key
        cases key with
        | logLevel => exact ⟨_, (decides_iff silent).mpr (eq_ok_of_toOption level).symm⟩
        | logDirectory => exact ⟨_, (decides_iff silent).mpr (eq_ok_of_toOption logs).symm⟩
        | reportDirectory => exact ⟨_, (decides_iff silent).mpr (eq_ok_of_toOption reports).symm⟩
        | encoding => exact ⟨_, (decides_iff silent).mpr (eq_ok_of_toOption encoded).symm⟩
    rw [Letter.map_toChar_ofString, String.ofList_toList] at refused
    exact ⟨config, rfl, settled, (decided _).mpr rfl, refused⟩

/-- A directory that cannot be written as a text comes before a log level that is not accepted, from a configuration
and from the command line. -/
theorem unwritten_directory_hides_level :
    let directory : Int := Nat.pow 16 3572
    let config : Config := ⟨⟨#[], #[some (.scalar (.text (Letter.ofString "log_level"))),
      some (.scalar (.text (Letter.ofString "LOUD"))), some (.scalar (.text (Letter.ofString "log_dir"))),
      some (.scalar (.int directory))], []⟩, [(0, 1), (2, 3)]⟩
    let overrides : Overrides := [("log_level", .text "LOUD"), ("log_dir", .int directory)]
    let loud : Except Fault (Option (List Letter)) := .ok (some (Letter.ofString "LOUD"))
    ¬ Level.Accepts (Letter.ofString "LOUD") ∧
      Decides config.valuation .logLevel none none (config.node? .logLevel) loud ∧
      settle config [] [] = .error IntegerFormat.notWritten ∧
      Decides Config.empty.valuation .logLevel (overrides.lookup "log_level") none none loud ∧
      load ⟨[], []⟩ [] none overrides = .error IntegerFormat.notWritten ∧
      IntegerFormat.notWritten.isA .settings = false := by
  intro directory config overrides loud
  have unwritten : IntegerFormat.render directory = .error IntegerFormat.notWritten := if_neg (by decide +kernel)
  have silent : (([] : Overrides).map Prod.fst).Nodup := List.nodup_nil
  have dictionary : (overrides.map Prod.fst).Nodup := by decide +kernel
  have inFile : Decides config.valuation .logLevel none none (config.node? .logLevel) loud := by
    have node : config.node? .logLevel = some 1 := by decide +kernel
    rw [node]
    exact .config rfl rfl (by decide)
  have tooLong : Decides config.valuation .logDirectory none none (config.node? .logDirectory)
      (.error IntegerFormat.notWritten) := by
    have node : config.node? .logDirectory = some 3 := by decide +kernel
    have rendered : config.valuation.render 3 = .error IntegerFormat.notWritten := by
      change Letter.ofString <$> IntegerFormat.render directory = _
      rw [unwritten]
      rfl
    have decided : Decides config.valuation .logDirectory none none (some 3) (some <$> config.valuation.render 3) :=
      .config rfl rfl (by decide +kernel)
    rw [rendered] at decided
    exact node ▸ decided
  have given : Decides Config.empty.valuation .logLevel (overrides.lookup "log_level") none none loud :=
    .commandLine (by decide)
  have tooLong' : Decides Config.empty.valuation .logDirectory (overrides.lookup "log_dir") none none
      (.error IntegerFormat.notWritten) := by
    have written : Overrides.written (.int directory) = .error IntegerFormat.notWritten := unwritten
    have decided : Decides Config.empty.valuation .logDirectory (some (.int directory)) none none
        ((fun text => some (Letter.ofString text)) <$> Overrides.written (.int directory)) := .commandLine (by simp)
    rw [written] at decided
    exact decided
  refine ⟨not_accepts_loud, inFile, ?_, given, ?_, rfl⟩
  · exact settle_of_unwritten ((decides_iff silent).mp inFile).symm ((decides_iff silent).mp tooLong).symm
  · have level : chosen Config.empty [] overrides .logLevel = loud := ((decides_iff dictionary).mp given).symm
    have unread : Config.readOptional ⟨[], []⟩ none = .ok Config.empty := rfl
    rw [load_of_read unread]
    exact settle_of_unwritten level ((decides_iff dictionary).mp tooLong').symm

end Settings

end Linewise
