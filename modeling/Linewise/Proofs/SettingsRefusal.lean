import Linewise.Command
import Linewise.Proofs.SettingsPriority

/-! What becomes of settings that are not accepted. A log level without a name, an encoding that is not known and one
that does not write a line break as a line feed are refused as settings, and a command line then ends with exit code 2.
What the check does not foresee ends in a fault of another class: a value that cannot be written as a text, a text that
cannot be encoded, and an encoding that cannot be looked up or writes no text. -/
namespace Linewise

open Text (Letter)

theorem exists_of_mapM_error {ε α β : Type} {step : α → Except ε β} {items : List α} {fault : ε}
    (failed : items.mapM step = .error fault) : ∃ item ∈ items, step item = .error fault := by
  induction items with
  | nil => cases failed
  | cons item items ih =>
    rw [List.mapM_cons] at failed
    rcases cases_of_bind_error failed with here | ⟨value, -, failed⟩
    · exact ⟨item, by simp, here⟩
    rcases cases_of_bind_error failed with later | ⟨values, -, failed⟩
    · obtain ⟨other, member, there⟩ := ih later
      exact ⟨other, by simp [member], there⟩
    · cases failed

/-- Why a value is not written as a text: an integer in it has too many digits, or it is nested too deep. -/
inductive Unwritten : Fault → Prop
  | long : Unwritten IntegerFormat.notWritten
  | deep : Unwritten Yaml.Valuation.tooDeepToWrite

theorem IntegerFormat.unwritten_of_render {n : Int} {fault : Fault} (refused : render n = .error fault) :
    Unwritten fault := by
  unfold render at refused
  split at refused
  · cases refused
  · cases refused
    exact .long

namespace Yaml

theorem Scalar.unwritten_of_quoted {value : Scalar} {fault : Fault} (refused : value.quoted = .error fault) :
    Unwritten fault := by
  cases value with
  | int n => exact IntegerFormat.unwritten_of_render refused
  | _ => cases refused

theorem Scalar.unwritten_of_render {value : Scalar} {fault : Fault} (refused : value.render = .error fault) :
    Unwritten fault := by
  cases value with
  | text | date | moment => cases refused
  | _ => exact unwritten_of_quoted (eq_error_of_map_error refused)

namespace Valuation

/-- A text made of parts is not written for want of one of them. -/
theorem unwritten_of_parts {α : Type} {part : α → Except Fault String} {items : List α} {join : List String → String}
    {fault : Fault} (each : ∀ item ∈ items, ∀ fault, part item = .error fault → Unwritten fault)
    (refused : (do return join (← items.mapM part)) = .error fault) : Unwritten fault := by
  rcases cases_of_bind_error refused with failed | ⟨texts, -, failed⟩
  · obtain ⟨item, member, there⟩ := exists_of_mapM_error failed
    exact each item member fault there
  · cases failed

theorem unwritten_of_quoted {valuation : Valuation} {depth : Nat} {within : List Nat} {node : Nat} {fault : Fault}
    (refused : valuation.quoted depth within node = .error fault) : Unwritten fault := by
  induction depth generalizing within node fault with
  | zero =>
    cases refused
    exact .deep
  | succ depth ih =>
    -- A pair is written as its key and its value, one after the other.
    have pair {make : String → String → String} (entry : Nat × Nat) (fault : Fault)
        (refused : (do
          let key ← valuation.quoted depth (node :: within) entry.1
          let value ← valuation.quoted depth (node :: within) entry.2
          return make key value) = .error fault) : Unwritten fault := by
      rcases cases_of_bind_error refused with key | ⟨text, -, refused⟩
      · exact ih key
      rcases cases_of_bind_error refused with value | ⟨text, -, refused⟩
      · exact ih value
      · cases refused
    unfold quoted at refused
    cases found : valuation.object? node with
    | none =>
      rw [found] at refused
      cases refused
    | some object =>
      rw [found] at refused
      cases object with
      | scalar value => exact Scalar.unwritten_of_quoted refused
      | list items =>
        simp only at refused
        split at refused
        · cases refused
        · exact unwritten_of_parts (fun item _ fault => ih) refused
      | mapping entries =>
        simp only at refused
        split at refused
        · cases refused
        · exact unwritten_of_parts (fun entry _ fault => pair entry fault) refused
      | set members =>
        cases members with
        | nil => cases refused
        | cons first others => exact unwritten_of_parts (fun item _ fault => ih) refused
      | pairs entries =>
        simp only at refused
        split at refused
        · cases refused
        · exact unwritten_of_parts (fun entry _ fault => pair entry fault) refused

theorem unwritten_of_render {valuation : Valuation} {node : Nat} {fault : Fault}
    (refused : valuation.render node = .error fault) : Unwritten fault := by
  unfold render at refused
  split at refused
  · exact Scalar.unwritten_of_render refused
  · exact unwritten_of_quoted (eq_error_of_map_error refused)

end Valuation

end Yaml

theorem Overrides.unwritten_of_written {value : Value} {fault : Fault} (refused : written value = .error fault) :
    Unwritten fault := by
  cases value with
  | int n => exact IntegerFormat.unwritten_of_render refused
  | _ => cases refused

namespace Encoding

theorem mem_filed_of_named? {name : String} {encoding : Encoding} (found : named? name = some encoding) :
    ∃ filedAs, (filedAs, encoding) ∈ filed := by
  have filing {filedAs : String} (found : filed.lookup filedAs = some encoding) :
      ∃ filedAs, (filedAs, encoding) ∈ filed := by
    obtain ⟨before, after, cut, -⟩ := List.lookup_eq_some_iff.mp found
    exact ⟨filedAs, by simp [cut]⟩
  unfold named? at found
  simp only at found
  split at found
  · exact filing found
  · exact filing found

theorem find_eq_ok {name : String} {encoding : Encoding} (found : find name = .ok encoding) :
    named? name = some encoding := by
  unfold find at found
  split at found
  · cases found
  · split at found
    next other named =>
      cases found
      exact named
    next => cases found

/-- No encoding that is known by its line break alone would be taken for one that lines are read in. -/
theorem ne_feed_of_escaped {name : String} {bytes : List UInt8} (found : find name = .ok (.escaped bytes)) :
    bytes ≠ [0x0A] := by
  obtain ⟨filedAs, member⟩ := mem_filed_of_named? (find_eq_ok found)
  rintro rfl
  have apart : ∀ entry ∈ filed, entry.2 ≠ .escaped [0x0A] := by decide
  exact apart _ member rfl

/-- A line break in the encoding that goes by a name. -/
def writtenBreak (name : String) : Encoding → Except Fault (List UInt8)
  | text codec => .ok codec.lineBreak
  | escaped bytes => .ok bytes
  | binary => .error (notText name "encode")
  | undefined => .error (refused name "encoding")

theorem lineBreak_of_find {name : String} {encoding : Encoding} (found : find name = .ok encoding) :
    lineBreak name = writtenBreak name encoding := by
  rw [lineBreak, found]
  cases encoding <;> rfl

/-- A name that cannot be looked up, or an encoding that writes no text, and the fault that this ends in. -/
inductive Balks (name : String) : Fault → Prop
  | null (inside : '\x00' ∈ name.toList) : Balks name nullCharacter
  | binary (found : find name = .ok .binary) : Balks name (notText name "encode")
  | undefined (found : find name = .ok .undefined) : Balks name (refused name "encoding")

end Encoding

namespace Settings

open Encoding (Balks)

/-- What the check of an encoding comes to. It is accepted if lines can be cut at line feeds before they are read in it,
and refused as a setting if it is not known or writes a line break in another way. -/
inductive Verdict (name : String) : Except Fault Unit → Prop
  | accepted {codec : Text.Codec} (found : Encoding.find name = .ok (.text codec)) (feeds : codec.lineBreak = [0x0A]) :
      Verdict name (.ok ())
  | unknown (unfound : Encoding.find name = .error (Encoding.unknown name)) :
      Verdict name (.error (.settings ("Unsupported encoding: " ++ name)))
  | unfit {bytes : List UInt8} (written : Encoding.lineBreak name = .ok bytes) (other : bytes ≠ [0x0A]) :
      Verdict name (.error (.settings ("Unsupported encoding: " ++ name ++
        " (line terminator is not a single \\n byte)")))
  | balked {fault : Fault} (balks : Balks name fault) : Verdict name (.error fault)

section

variable {name : String}

theorem checkEncoding_of_unfound {fault : Fault} (unfound : Encoding.find name = .error fault) :
    checkEncoding name =
      .error (if fault.isA .lookup then .settings ("Unsupported encoding: " ++ name) else fault) := by
  unfold checkEncoding
  rw [unfound]
  by_cases lookup : fault.isA .lookup
  · simp only [lookup, if_true]
    rfl
  · simp only [lookup]
    rfl

theorem checkEncoding_of_unwritten {encoding : Encoding} {fault : Fault} (found : Encoding.find name = .ok encoding)
    (unwritten : Encoding.lineBreak name = .error fault) : checkEncoding name = .error fault := by
  unfold checkEncoding
  rw [found, unwritten]
  rfl

theorem checkEncoding_of_written {encoding : Encoding} {bytes : List UInt8} (found : Encoding.find name = .ok encoding)
    (written : Encoding.lineBreak name = .ok bytes) :
    checkEncoding name = if bytes = [0x0A] then .ok () else .error (.settings ("Unsupported encoding: " ++ name ++
      " (line terminator is not a single \\n byte)")) := by
  unfold checkEncoding
  rw [found, written]
  by_cases feeds : bytes = [0x0A]
  · rw [if_pos feeds, feeds]
    rfl
  · rw [if_neg feeds]
    simp only [bind, Except.bind, ne_eq, feeds, not_false_eq_true, if_true]
    rfl

theorem verdict_checkEncoding (name : String) : Verdict name (checkEncoding name) := by
  cases found : Encoding.find name with
  | error fault =>
    rw [checkEncoding_of_unfound found]
    by_cases null : name.toList.contains '\x00'
    · rw [Encoding.find, if_pos null] at found
      cases found
      exact .balked (.null (List.contains_iff_mem.mp null))
    · have named := found
      rw [Encoding.find, if_neg null] at named
      split at named
      · cases named
      · cases named
        exact .unknown found
  | ok encoding =>
    have lineBreak := Encoding.lineBreak_of_find found
    cases encoding with
    | text codec =>
      rw [checkEncoding_of_written found lineBreak]
      by_cases feeds : codec.lineBreak = [0x0A]
      · rw [if_pos feeds]
        exact .accepted found feeds
      · rw [if_neg feeds]
        exact .unfit lineBreak feeds
    | escaped bytes =>
      have other := Encoding.ne_feed_of_escaped found
      rw [checkEncoding_of_written found lineBreak, if_neg other]
      exact .unfit lineBreak other
    | binary =>
      rw [checkEncoding_of_unwritten found lineBreak]
      exact .balked (.binary found)
    | undefined =>
      rw [checkEncoding_of_unwritten found lineBreak]
      exact .balked (.undefined found)

/-- The check comes to one thing only. -/
theorem Verdict.checkEncoding_eq {result : Except Fault Unit} (verdict : Verdict name result) :
    checkEncoding name = result := by
  cases verdict with
  | accepted found feeds => rw [checkEncoding_of_written found (Encoding.lineBreak_of_find found), if_pos feeds]
  | unknown unfound =>
    rw [checkEncoding_of_unfound unfound]
    rfl
  | unfit written other =>
    obtain ⟨encoding, found, -⟩ := exists_of_bind_ok written
    rw [checkEncoding_of_written found written, if_neg other]
  | balked balks =>
    cases balks with
    | null inside =>
      have unfound : Encoding.find name = .error Encoding.nullCharacter := if_pos (List.contains_iff_mem.mpr inside)
      rw [checkEncoding_of_unfound unfound]
      rfl
    | binary found => exact checkEncoding_of_unwritten found (Encoding.lineBreak_of_find found)
    | undefined found => exact checkEncoding_of_unwritten found (Encoding.lineBreak_of_find found)

end

variable {config : Config} {environment : Environment} {overrides : Overrides}

theorem unwritten_of_chosen {key : SettingKey} {fault : Fault}
    (refused : chosen config environment overrides key = .error fault) : Unwritten fault := by
  have refused := eq_error_of_map_error refused
  unfold choose at refused
  split at refused
  next value given =>
    unfold Overrides.setting? at given
    split at given
    · cases given
      exact Overrides.unwritten_of_written (eq_error_of_map_error refused)
    · cases given
  next =>
    split at refused
    · cases refused
    · split at refused
      next value given =>
        unfold Config.setting? at given
        obtain ⟨node, -, rfl⟩ := Option.map_eq_some_iff.mp given
        split at refused
        · cases refused
        · exact Yaml.Valuation.unwritten_of_render (eq_error_of_map_error refused)
      next => cases refused

/-- A fault that is not reported as one of the settings: what is chosen cannot be written as a text, or the text cannot
be encoded, or it is the name of an encoding that balks. -/
inductive Escapes (config : Config) (environment : Environment) (overrides : Overrides) : Fault → Prop
  | unwritten {key : SettingKey} {fault : Fault} (refused : chosen config environment overrides key = .error fault) :
      Escapes config environment overrides fault
  | unencodable {key : SettingKey} {text : List Letter}
      (given : chosen config environment overrides key = .ok (some text)) (surrogate : Letter.chars? text = none) :
      Escapes config environment overrides (.plain .unencodable [.text (Letter.unencodable text)])
  | balked {name : String} {fault : Fault}
      (given : chosen config environment overrides .encoding = .ok (some (Letter.ofString name)))
      (balks : Balks name fault) : Escapes config environment overrides fault

theorem Escapes.not_settings {fault : Fault} (escapes : Escapes config environment overrides fault) :
    fault.isA .settings = false := by
  cases escapes with
  | unwritten refused => cases unwritten_of_chosen refused <;> rfl
  | unencodable => rfl
  | balked given balks => cases balks <;> rfl

theorem exists_of_merge_error {fault : Fault} (refused : merge config environment overrides = .error fault) :
    ∃ key, chosen config environment overrides key = .error fault := by
  have unchosen {key : SettingKey} (refused : choose config environment overrides key = .error fault) :
      ∃ key, chosen config environment overrides key = .error fault := by
    refine ⟨key, ?_⟩
    rw [chosen, refused]
    rfl
  rcases cases_of_bind_error refused with level | ⟨_, -, refused⟩
  · exact unchosen level
  rcases cases_of_bind_error refused with logs | ⟨_, -, refused⟩
  · exact unchosen logs
  rcases cases_of_bind_error refused with reports | ⟨_, -, refused⟩
  · exact unchosen reports
  rcases cases_of_bind_error refused with encoding | ⟨_, -, refused⟩
  · exact unchosen encoding
  · cases refused

theorem unencodable_of_usable {text : List Letter} {fault : Fault} (refused : usable text = .error fault) :
    Letter.chars? text = none ∧ fault = .plain .unencodable [.text (Letter.unencodable text)] := by
  unfold usable at refused
  split at refused
  · cases refused
  next unread =>
    cases refused
    exact ⟨unread, rfl⟩

theorem exists_of_mapM_usable {text : Option (List Letter)} {fault : Fault} (refused : text.mapM usable = .error fault) :
    ∃ letters, text = some letters ∧ usable letters = .error fault := by
  cases text with
  | none => cases refused
  | some letters => exact ⟨letters, rfl, eq_error_of_map_error refused⟩

theorem exists_of_levelName {text : List Letter} {fault : Fault} (refused : levelName text = .error fault) :
    ∃ message, fault = .settings message := by
  unfold levelName at refused
  simp only at refused
  split at refused
  · cases refused
  · cases refused
    exact ⟨_, rfl⟩

/-- A draft is refused for its log level or its encoding, or it is not reported what is wrong with it. -/
theorem Draft.cases_of_check {draft : Draft} {fault : Fault} (refused : draft.check = .error fault) :
    (∃ message, fault = .settings message) ∨
      (∃ key text, draft.value key = some text ∧ Letter.chars? text = none ∧
        fault = .plain .unencodable [.text (Letter.unencodable text)]) ∨
      ∃ name, draft.encoding = Letter.ofString name ∧ Balks name fault := by
  rcases cases_of_bind_error refused with level | ⟨_, -, refused⟩
  · exact .inl (exists_of_levelName level)
  rcases cases_of_bind_error refused with unused | ⟨name, used, refused⟩
  · exact .inr (.inl ⟨.encoding, draft.encoding, rfl, unencodable_of_usable unused⟩)
  rcases cases_of_bind_error refused with unchecked | ⟨_, -, refused⟩
  · have verdict := verdict_checkEncoding name
    rw [unchecked] at verdict
    cases verdict with
    | unknown | unfit => exact .inl ⟨_, rfl⟩
    | balked balks => exact .inr (.inr ⟨name, eq_ofString_of_usable used, balks⟩)
  rcases cases_of_bind_error refused with unused | ⟨_, -, refused⟩
  · obtain ⟨text, given, unused⟩ := exists_of_mapM_usable unused
    exact .inr (.inl ⟨.logDirectory, text, given, unencodable_of_usable unused⟩)
  rcases cases_of_bind_error refused with unused | ⟨_, -, refused⟩
  · obtain ⟨text, given, unused⟩ := exists_of_mapM_usable unused
    exact .inr (.inl ⟨.reportDirectory, text, given, unencodable_of_usable unused⟩)
  · cases refused

/-- Settings that are not settled are reported as such, but for the faults that escape. -/
theorem cases_of_settle {fault : Fault} (refused : settle config environment overrides = .error fault) :
    (∃ message, fault = .settings message) ∨ Escapes config environment overrides fault := by
  rcases cases_of_bind_error refused with unmerged | ⟨draft, merged, refused⟩
  · obtain ⟨key, unwritten⟩ := exists_of_merge_error unmerged
    exact .inr (.unwritten unwritten)
  rcases cases_of_bind_error refused with unchecked | ⟨_, -, refused⟩
  · rcases draft.cases_of_check unchecked with reported | ⟨key, text, value, surrogate, rfl⟩ | ⟨name, named, balks⟩
    · exact .inl reported
    · exact .inr (.unencodable (value ▸ chosen_of_merge merged key) surrogate)
    · have given := chosen_of_merge merged .encoding
      rw [Draft.value, named] at given
      exact .inr (.balked given balks)
  · cases refused

theorem chars?_ofString (name : String) : Letter.chars? (Letter.ofString name) = some name.toList := by
  unfold Letter.chars? Letter.ofString Letter.ofChars
  induction name.toList with
  | nil => rfl
  | cons c rest ih =>
    rw [List.map_cons, List.mapM_cons, ih]
    rfl

theorem usable_ofString (name : String) : usable (Letter.ofString name) = .ok name := by
  rw [usable, chars?_ofString]
  simp only [String.ofList_toList]

theorem levelName_of_accepts {text : List Letter} (accepted : Level.Accepts text) : ∃ name, levelName text = .ok name := by
  obtain ⟨name, rfl, known⟩ := accepted
  refine ⟨name, ?_⟩
  unfold levelName
  rw [Letter.map_toChar_ofString, String.ofList_toList, chars?_ofString]
  simp only [Option.isSome_some, known, and_self, if_true]

/-- Where nothing is wrong with the log level, the check of the encoding decides. -/
theorem Draft.check_of_verdict {draft : Draft} {name : String} {fault : Fault} (accepted : Level.Accepts draft.logLevel)
    (given : draft.encoding = Letter.ofString name) (verdict : Verdict name (.error fault)) :
    draft.check = .error fault := by
  obtain ⟨level, named⟩ := levelName_of_accepts accepted
  simp only [check, named, given, usable_ofString, verdict.checkEncoding_eq, bind, Except.bind]

theorem settle_of_verdict {level : List Letter} {name : String} {fault : Fault}
    (written : ∀ key, ∃ value, chosen config environment overrides key = .ok value)
    (leveled : chosen config environment overrides .logLevel = .ok (some level)) (accepted : Level.Accepts level)
    (given : chosen config environment overrides .encoding = .ok (some (Letter.ofString name)))
    (verdict : Verdict name (.error fault)) : settle config environment overrides = .error fault := by
  obtain ⟨draft, merged⟩ := exists_merge written
  rw [chosen_of_merge merged] at leveled given
  have sameLevel : draft.logLevel = level := Option.some.inj (Except.ok.inj leveled)
  have sameName : draft.encoding = Letter.ofString name := Option.some.inj (Except.ok.inj given)
  have checked := draft.check_of_verdict (sameLevel ▸ accepted) sameName verdict
  rw [settle, merged]
  simp only [checked, bind, Except.bind]

end Settings

namespace Command

/-- A command line that gets as far as its settings, with the path of the configuration and the values it gives. -/
inductive Reaches (arguments : List String) : Option String → Overrides → Prop
  | mk {words : Words} {command : Command} {rest : List String} (parsed : Words.parse sharedRules arguments = .ok words)
      (unhelped : words.help = false) (found : find words = .ok (command, rest)) :
      Reaches arguments (words.value? "--config") (overrides words)

theorem invoke_of_unsettled {surroundings : Surroundings} {journal : Journal} {arguments : List String}
    {configPath : Option String} {overrides : Overrides} {fault : Fault} (reaches : Reaches arguments configPath overrides)
    (refused : Settings.load journal.files surroundings.environment configPath overrides = .error fault) :
    invoke surroundings journal arguments =
      if fault.isA .settings then refuse journal fault else stopWith journal (.crash fault) := by
  cases reaches with
  | mk parsed unhelped found =>
    have given : arguments ≠ [] := by
      rintro rfl
      cases parsed
      cases found
    simp only [invoke, given, parsed, unhelped, found, refused, if_false, Bool.false_eq_true]

end Command

end Linewise
