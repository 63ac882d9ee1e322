import Linewise.Proofs.Diagnostics
import Linewise.Proofs.IntegerGrammar
import Linewise.Proofs.NumbersOutput
import Mathlib.Data.List.TakeDrop

/-! Integers given as the argument of a command. A negative one starts as an option does, and is still taken as the
argument, whatever options come before the command. It is then read as it stands: what fits in 32 bits is printed in
canonical form, and anything else is refused as too large or too small. -/
namespace Linewise

open IntegerFormat (Canonical IsDecimal Sign StandsFor)

theorem exists_of_map_ok {ε α β : Type} {change : α → β} {result : Except ε α} {value : β}
    (mapped : change <$> result = .ok value) : ∃ before, result = .ok before ∧ change before = value := by
  cases result with
  | error fault => cases mapped
  | ok before => exact ⟨before, rfl, Except.ok.inj mapped⟩

namespace Words

/-- The words after the options of a command line are left for the command, once one of them is no option. -/
theorem parse_append {rules : WordRules} (inOrder : rules.mixed = false) {word : String} (ends : word ≠ "--")
    (plain : looksLikeOption word = false) (later : List String) {options : List String} {words : Words}
    (parsed : parse rules options = .ok words) (only : words.positional = []) :
    parse rules (options ++ word :: later) = .ok { words with positional := word :: later } := by
  fun_induction parse rules options generalizing words with
  | case1 =>
    cases parsed
    simp [parse, ends, plain, inOrder]
  | case2 rest =>
    cases parsed
    subst only
    simp [parse]
  | case3 | case7 | case9 => cases parsed
  | case4 first rest unended option split ih =>
    obtain ⟨before, read, rfl⟩ := exists_of_map_ok parsed
    rw [List.cons_append, parse, if_neg unended, if_pos option, split]
    simp only [if_true, ih read only]
    rfl
  | case5 first unended option name unhelped known value rest split ih =>
    obtain ⟨before, read, rfl⟩ := exists_of_map_ok parsed
    rw [List.cons_append, parse, if_neg unended, if_pos option, split]
    simp only [unhelped, if_false, known, if_true, ih read only]
    rfl
  | case6 first unended option name unhelped known value rest split ih =>
    obtain ⟨before, read, rfl⟩ := exists_of_map_ok parsed
    rw [List.cons_append, List.cons_append, parse, if_neg unended, if_pos option, split]
    simp only [unhelped, if_false, known, if_true, ih read only]
    rfl
  | case8 first rest unended option name value split unhelped unknown lenient ih =>
    obtain ⟨before, -, rfl⟩ := exists_of_map_ok parsed
    cases only
  | case10 first rest unended option mixed => simp [inOrder] at mixed
  | case11 =>
    cases parsed
    cases only

theorem splitOption_of_plain {word : String} (plain : '=' ∉ word.toList) : splitOption word = (word, none) := by
  have all : ∀ c ∈ word.toList, decide (c ≠ '=') = true := by
    intro c member
    simpa using fun same : c = '=' => plain (same ▸ member)
  rw [splitOption, List.span_eq_takeWhile_dropWhile, List.takeWhile_eq_self_iff.mpr all,
    List.dropWhile_eq_nil_iff.mpr all]
  simp

/-- Where unknown options are words, a word alone is the argument, unless it ends the options or asks for help. -/
theorem parse_lenient {word : String} (ends : word ≠ "--") (unhelped : (splitOption word).1 ≠ "--help") :
    parse Command.parseArgument.rules [word] = .ok ⟨[], false, [word]⟩ := by
  rw [parse, if_neg ends]
  by_cases option : looksLikeOption word = true
  · rw [if_pos option]
    simp only [unhelped, if_false, Command.rules, List.contains_nil, Bool.false_eq_true, if_true]
    rfl
  · rw [if_neg option]
    rfl

end Words

namespace IntegerFormat.StandsFor

variable {signed : Bool} {text : List Char} {n : Int} (literal : StandsFor signed text n)

include literal

theorem char_bounds {c : Char} (member : c ∈ text) : 0x2B ≤ c.toNat ∧ c.toNat < 0x3A := by
  obtain ⟨leading, decimal⟩ := literal
  rcases List.mem_append.mp member with sign | digit
  · cases leading with
    | none => cases sign
    | plus | minus =>
      rw [List.mem_singleton.mp sign]
      decide
  · have isDigit := decimal.digit c digit
    simp only [Char.isDigit, Bool.and_eq_true, decide_eq_true_eq] at isDigit
    have lower : 0x30 ≤ c.toNat := isDigit.1
    have upper : c.toNat ≤ 0x39 := isDigit.2
    omega

theorem not_mem {c : Char} (outside : c.toNat < 0x2B ∨ 0x3A ≤ c.toNat) : c ∉ text := by
  intro member
  have := literal.char_bounds member
  omega

theorem exists_digit : ∃ c ∈ text, c.isDigit = true := by
  obtain ⟨leading, decimal⟩ := literal
  obtain ⟨c, member⟩ := List.exists_mem_of_ne_nil _ decimal.filled
  exact ⟨c, List.mem_append_right _ member, decimal.digit c member⟩

end IntegerFormat.StandsFor

/-- A literal is never taken as an option, also not when it starts with a minus. -/
theorem Words.parse_literal {text : String} {signed : Bool} {n : Int} (literal : StandsFor signed text.toList n) :
    parse Command.parseArgument.rules [text] = .ok ⟨[], false, [text]⟩ := by
  apply parse_lenient
  · rintro rfl
    obtain ⟨c, member, digit⟩ := literal.exists_digit
    simp only [String.reduceToList, List.mem_cons, List.not_mem_nil, or_false, or_self] at member
    subst member
    exact absurd digit (by decide)
  · rw [splitOption_of_plain (literal.not_mem (by decide))]
    rintro rfl
    exact literal.not_mem (c := 'h') (by decide) (by simp)

namespace Text

/-- A printable character of ASCII that is neither an apostrophe nor a backslash. -/
def IsPlain (c : Char) : Prop := 0x20 ≤ c.toNat ∧ c.toNat < 0x7F ∧ c ≠ '\'' ∧ c ≠ '\\'

theorem Quoted.encodeChar_of_isPlain {c : Char} (plain : IsPlain c) : encodeChar isPrintable '\'' c = [c] := by
  obtain ⟨low, high, apart, straight⟩ := plain
  have other (d : Char) (control : d.toNat < 0x20) : c ≠ d := by
    rintro rfl
    omega
  have printable : isPrintable c = true := by simp [isPrintable, low, high]
  simp [encodeChar, apart, straight, other '\n', other '\r', other '\t', printable]

/-- A text of such characters is quoted by two apostrophes around it. -/
theorem quote_of_isPlain {text : String} (plain : ∀ c ∈ text.toList, IsPlain c) : quote text = "'" ++ text ++ "'" := by
  have single : Quoted.delimiter text.toList = '\'' := by
    have none : '\'' ∉ text.toList := fun member => (plain _ member).2.2.1 rfl
    simp [Quoted.delimiter, none]
  have kept : text.toList.flatMap (Quoted.encodeChar isPrintable '\'') = text.toList := by
    rw [List.flatMap_congr fun c member => Quoted.encodeChar_of_isPlain (plain c member)]
    simp
  rw [← String.toList_inj, quote, Quoted.encode, single, kept]
  simp

end Text

theorem IntegerFormat.StandsFor.isPlain {signed : Bool} {text : List Char} {n : Int}
    (literal : StandsFor signed text n) : ∀ c ∈ text, Text.IsPlain c := by
  intro c member
  obtain ⟨low, high⟩ := literal.char_bounds member
  refine ⟨by omega, by omega, ?_, ?_⟩
  · rintro rfl
    exact literal.not_mem (by decide) member
  · rintro rfl
    exact literal.not_mem (by decide) member

/-- The failure to parse an argument for a flaw in it. -/
def Failure.ofFlaw (text : String) (flaw : IntegerFlaw) : Failure := ⟨.parsing none text, some (.integer flaw text)⟩

/-- What a command makes of a literal as its argument: an integer, or a failure to parse it for one of two flaws. -/
theorem Transform.run_literal {text : String} {n : Int} (literal : StandsFor true text.toList n)
    (short : text.toList.countP Char.isDigit ≤ IntegerFormat.digitLimit) :
    run (some (.integer .i32 false)) none text =
      if 2147483647 < n then .error (Failure.ofFlaw text .tooLarge).toFault
      else if n < -2147483648 then .error (Failure.ofFlaw text .tooSmall).toFault
      else .ok (.int n) := by
  obtain ⟨read, found, value⟩ := IntegerFormat.standsFor_iff_read.mp literal
  have few := Nat.le_trans (IntegerFormat.digits_le_countP found) short
  have classified : IntegerFormat.i32.Classified text := IntegerFormat.classified_of_read (by decide) found few
  have room : IntegerFormat.i32.HasRoom := by decide
  have least : IntegerFormat.i32.least = -2147483648 := by decide
  have greatest : IntegerFormat.i32.greatest = 2147483647 := by decide
  have failed (flaw : IntegerFlaw) (parsed : IntegerFormat.i32.parse text = .error (.integer flaw text)) :
      run (some (.integer .i32 false)) none text = .error (Failure.ofFlaw text flaw).toFault := by
    have made : made (some (.integer .i32 false)) text = .error (.integer flaw text) := by
      simp [made, integer, parsed]
    exact run_declared none made ⟨_, rfl, .value, by simp [integer], rfl⟩
  split
  next above => exact failed .tooLarge (classified.tooLarge.mpr ⟨room, n, literal, by omega⟩)
  split
  next below => exact failed .tooSmall (classified.tooSmall.mpr ⟨room, n, literal, by omega⟩)
  next =>
    have parsed := (classified.value n).mpr ⟨room, literal, by omega, by omega⟩
    exact run_made none (by simp [made, integer, parsed])

namespace Command

section

variable {surroundings : Surroundings} {journal : Journal} {arguments : List String} {command : Command}
  {session : Session} {transform : Option Transform} {argument : Option String}

/-- A command whose log and report can be written and whose result is a failure ends with it, and prints it. -/
theorem exit_of_failure {failure : Failure}
    (starts : Starts surroundings journal arguments command session transform argument)
    (logs : session.CanLog command journal)
    (reports : session.CanReport surroundings command (session.opened command journal).files)
    (failed : session.result command transform argument
      (session.filesOnOpening command transform journal (argument.getD "")) = .error failure.toFault) :
    (invoke surroundings journal arguments).ending = .exit 1 ∧ (invoke surroundings journal arguments).out = "" ∧
      (invoke surroundings journal arguments).err = echo failure.message := by
  obtain ⟨level, known⟩ := level_of_starts starts
  obtain ⟨logFile, created⟩ := Session.created_of_canLog logs known
  obtain ⟨shows, told⟩ := session.attempt_shows surroundings (agreed_of_starts starts) journal argument
  rw [failed] at shows
  obtain ⟨finished, silent, printed, -⟩ := shows
  obtain ⟨after, finish, -⟩ := Session.run_finish created reports told
  rw [invoke_of_starts starts, finish]
  exact ⟨by rw [Attempt.ending, finished], silent, printed⟩

end

/-- Options before a command that are in order, with the session that they set up. -/
inductive Configures (surroundings : Surroundings) (journal : Journal) (options : List String) : Session → Prop
  | mk {words : Words} {loaded : Settings.Loaded} (parsed : Words.parse sharedRules options = .ok words)
      (only : words.positional = []) (unhelped : words.help = false)
      (settled : Settings.load journal.files surroundings.environment (words.value? "--config") (overrides words) =
        .ok loaded) :
      Configures surroundings journal options
        ⟨runIdOf surroundings words, loaded.settings, loaded.sources, words.value? "--config"⟩

variable {surroundings : Surroundings} {journal : Journal} {options : List String} {session : Session}
  {text : String} {n : Int}

theorem starts_of_configures (configures : Configures surroundings journal options session)
    (own : Words.parse parseArgument.rules [text] = .ok ⟨[], false, [text]⟩) :
    Starts surroundings journal (options ++ ["parse-arg", text]) .parseArgument session (some (.integer .i32 false))
      (some text) := by
  obtain ⟨parsed, only, unhelped, settled⟩ := configures
  have whole := Words.parse_append rfl (show "parse-arg" ≠ "--" by decide) (by decide) [text] parsed only
  exact .mk whole unhelped rfl settled own rfl (by simp) rfl

theorem result_literal (session : Session) (literal : StandsFor true text.toList n)
    (short : text.toList.countP Char.isDigit ≤ IntegerFormat.digitLimit) (files : FileTree) :
    session.result .parseArgument (some (.integer .i32 false)) (some text) files =
      if 2147483647 < n then .error (Failure.ofFlaw text .tooLarge).toFault
      else if n < -2147483648 then .error (Failure.ofFlaw text .tooSmall).toFault
      else .ok [.int n] := by
  simp only [Session.result, Transform.run_literal literal short]
  split
  · rfl
  split <;> rfl

/-- The line in which a literal is refused. -/
theorem echo_ofFlaw (literal : StandsFor true text.toList n) (flaw : IntegerFlaw) :
    echo (Failure.ofFlaw text flaw).message =
      "Could not parse argument " ++ Text.quote text ++ ": " ++ flaw.message ++ "\n" := by
  have reason : (Failure.ofFlaw text flaw).reason = flaw.message := by cases flaw <;> rfl
  have message : (Failure.ofFlaw text flaw).message =
      "Could not parse argument " ++ Text.quote text ++ ": " ++ flaw.message := by
    rw [Failure.message_eq, reason]
    rfl
  have words : '\x1b' ∉ flaw.message.toList := by cases flaw <;> decide +kernel
  have digits : '\x1b' ∉ text.toList := literal.not_mem (by decide)
  rw [echo, message, Text.stripEscapes_of_unescaped]
  simp [Text.quote_of_isPlain literal.isPlain, words, digits]

/-- An integer literal of at most 4300 digits, as the only word after the command and whatever options stand before it,
is the argument and no option, also if it starts with a minus. If its value fits in 32 bits, that is printed in
canonical form; otherwise the literal is refused, for being too large or too small by its value. -/
theorem literal_taken_as_argument (configures : Configures surroundings journal options session)
    (logs : session.CanLog .parseArgument journal)
    (reports : session.CanReport surroundings .parseArgument (session.opened .parseArgument journal).files)
    (literal : StandsFor true text.toList n) (short : text.toList.countP Char.isDigit ≤ 4300) :
    let finish := invoke surroundings journal (options ++ ["parse-arg", text])
    let refusal := "Could not parse argument " ++ Text.quote text ++ ": "
    Words.parse parseArgument.rules [text] = .ok ⟨[], false, [text]⟩ ∧ Text.quote text = "'" ++ text ++ "'" ∧
      (-2147483648 ≤ n → n ≤ 2147483647 → finish.ending = .exit 0 ∧ finish.err = "" ∧
        ∃ form, Canonical n form ∧ finish.out.toList = form ++ ['\n']) ∧
      (2147483647 < n → finish.ending = .exit 1 ∧ finish.out = "" ∧
        finish.err = refusal ++ "number too large to fit in target type" ++ "\n") ∧
      (n < -2147483648 → finish.ending = .exit 1 ∧ finish.out = "" ∧
        finish.err = refusal ++ "number too small to fit in target type" ++ "\n") := by
  intro finish refusal
  have own := Words.parse_literal literal
  have starts := starts_of_configures configures own
  have result := result_literal session literal short
    (session.filesOnOpening .parseArgument (some (.integer .i32 false)) journal text)
  refine ⟨own, Text.quote_of_isPlain literal.isPlain, ?_, ?_, ?_⟩
  · intro low high
    rw [if_neg (by omega), if_neg (by omega)] at result
    obtain ⟨ending, err, out⟩ := exit_of_result starts logs reports result
    refine ⟨ending, err, _, IntegerFormat.canonical_toString n, ?_⟩
    have printed : finish.out = _ := out
    rw [printed, ← toList_echo_int]
    simp [String.join]
  · intro above
    rw [if_pos above] at result
    obtain ⟨ending, out, err⟩ := exit_of_failure starts logs reports result
    exact ⟨ending, out, err.trans (echo_ofFlaw literal .tooLarge)⟩
  · intro below
    rw [if_neg (by omega), if_pos below] at result
    obtain ⟨ending, out, err⟩ := exit_of_failure starts logs reports result
    exact ⟨ending, out, err.trans (echo_ofFlaw literal .tooSmall)⟩

/-- Two negative literals after an option: one with zeros in front, and the first that is too small. -/
theorem literal_taken_as_argument_negative :
    let journal : Journal := ⟨⟨[], []⟩, [], "now"⟩
    let surroundings : Surroundings := ⟨[], "now", "fresh", 100, 100.25⟩
    let options := ["--log-level", "DEBUG"]
    let session : Session := ⟨"fresh", ⟨"DEBUG", none, none, "utf-8"⟩, ["cli"], none⟩
    let small := invoke surroundings journal (options ++ ["parse-arg", "-007"])
    let beyond := invoke surroundings journal (options ++ ["parse-arg", "-2147483649"])
    Configures surroundings journal options session ∧ session.CanLog .parseArgument journal ∧
      session.CanReport surroundings .parseArgument (session.opened .parseArgument journal).files ∧
      StandsFor true "-007".toList (-7) ∧ StandsFor true "-2147483649".toList (-2147483649) ∧
      small.ending = .exit 0 ∧ (∃ form, Canonical (-7) form ∧ small.out.toList = form ++ ['\n']) ∧
      beyond.ending = .exit 1 ∧ beyond.out = "" ∧
      beyond.err = "Could not parse argument '-2147483649': number too small to fit in target type\n" := by
  intro journal surroundings options session small beyond
  have configures : Configures surroundings journal options session := by
    let words : Words := ⟨[("--log-level", "DEBUG")], false, []⟩
    have parsed : Words.parse sharedRules options = .ok words := by decide +kernel
    have settled : Settings.load journal.files surroundings.environment (words.value? "--config") (overrides words) =
        .ok ⟨session.settings, session.sources⟩ := eq_ok_of_toOption (by decide +kernel)
    have named : runIdOf surroundings words = "fresh" := by decide +kernel
    have unset : words.value? "--config" = none := by decide +kernel
    have configures := Configures.mk parsed rfl rfl settled
    rw [named, unset] at configures
    exact configures
  have logs : session.CanLog .parseArgument journal := fun directory set => by cases set
  have reports : session.CanReport surroundings .parseArgument (session.opened .parseArgument journal).files :=
    fun directory set => by cases set
  have seven : StandsFor true "-007".toList (-7) := IntegerFormat.standsFor_iff_read.mpr ⟨⟨true, _⟩, rfl, rfl⟩
  have past : StandsFor true "-2147483649".toList (-2147483649) :=
    IntegerFormat.standsFor_iff_read.mpr ⟨⟨true, _⟩, rfl, rfl⟩
  obtain ⟨-, -, within, -, -⟩ := literal_taken_as_argument configures logs reports seven (by decide)
  obtain ⟨-, quoted, -, -, below⟩ := literal_taken_as_argument configures logs reports past (by decide)
  obtain ⟨exits, -, printed⟩ := within (by decide) (by decide)
  obtain ⟨fails, silent, told⟩ := below (by decide)
  rw [quoted] at told
  exact ⟨configures, logs, reports, seven, past, exits, printed, fails, silent, told.trans (by decide +kernel)⟩

end Command

end Linewise
