import Linewise.Proofs.AcceptedSettings
import Linewise.Proofs.Diagnostics
import Linewise.Proofs.FailedOutput
import Linewise.Proofs.LineBreaks
import Linewise.Proofs.Padding

/-! How many lines a command's diagnostic takes. A command ends in one of four failures. Every cause of one is described
in a single line, and so are the number and the quoted text of a line; a path is shown as it is. So the line breaks of a
diagnostic are those of the path in it: it is one line, unless the path is of several. -/
namespace Linewise

open Text (lineBreaks lineBreaks_append)

theorem isLine_echo_iff {text : String} : Text.IsLine (echo text).toList ↔ lineBreaks text.toList = [] := by
  have printed : (echo text).toList = Text.stripFrom 0 text.toList ++ ['\n'] := by
    rw [echo, String.toList_append, Text.stripEscapes, String.toList_ofList]
    rfl
  rw [printed, Text.isLine_concat_iff, Text.lineBreaks_strip]

/-- A file is not read for a null character in its path, or for what the system says. -/
theorem FileTree.refusal_of_read {tree : FileTree} {path : String} {fault : Fault}
    (refused : tree.read path = .error fault) :
    fault = nullByte ∨ ∃ refusal : Refusal, fault = refusal.toFault path := by
  unfold read unlessNull at refused
  split at refused
  · exact .inl (Except.error.inj refused).symm
  split at refused
  · split at refused <;> cases refused
    exact .inr ⟨_, rfl⟩
  all_goals
    cases refused
    exact .inr ⟨_, rfl⟩

theorem Refusal.describe_toFault (refusal : Refusal) (path : String) :
    (refusal.toFault path).describe.plain = refusal.message := by
  cases refusal <;> rfl

theorem Refusal.lineBreaks_message (refusal : Refusal) : lineBreaks refusal.message.toList = [] := by
  cases refusal <;> decide +kernel

theorem IntegerFlaw.lineBreaks_message (flaw : IntegerFlaw) : lineBreaks flaw.message.toList = [] := by
  cases flaw <;> decide +kernel

/-- Without a reason of the system's, a cause is described by its message, or else by its class. -/
theorem Fault.lineBreaks_describe {fault : Fault} (own : fault.systemReason? = none)
    (named : lineBreaks fault.kind.name.toList = []) (words : lineBreaks fault.message.toList = []) :
    lineBreaks fault.describe.plain.toList = [] := by
  unfold describe describeBy
  rw [own]
  simp only
  split
  · exact named
  · exact words

theorem IntegerFormat.Refused.lineBreaks_describe {text : String} {fault : Fault} (refused : Refused text fault) :
    lineBreaks fault.describe.plain.toList = [] := by
  cases refused with
  | flawed flaw =>
    have named : lineBreaks "IntegerParseError".toList = [] := by decide +kernel
    refine Fault.lineBreaks_describe rfl named ?_
    rw [Fault.message]
    exact flaw.lineBreaks_message
  | long count =>
    have named : lineBreaks "ValueError".toList = [] := by decide +kernel
    have words (message : String) : (Fault.value message).message = message := by
      rw [Fault.value, Fault.message]
      rfl
    refine Fault.lineBreaks_describe rfl named ?_
    rw [tooLong, words]
    simp only [String.toList_append, lineBreaks_append, Text.lineBreaks_nat, List.append_nil]
    decide +kernel

theorem Text.Codec.lineBreaks_describe {codec : Text.Codec} {bytes : List UInt8} {cause : Text.Undecodable}
    (refused : codec.decode bytes = .error cause) : lineBreaks (Fault.undecodable cause).describe.plain.toList = [] := by
  obtain ⟨name, reason⟩ := Text.Codec.words_of_decode refused
  have named : lineBreaks "UnicodeDecodeError".toList = [] := by decide +kernel
  refine Fault.lineBreaks_describe rfl named ?_
  rw [Fault.message]
  exact Text.Undecodable.lineBreaks_message (Text.lineBreaks_of_mem_codecWords name)
    (Text.lineBreaks_of_mem_codecWords reason)

namespace Stage

/-- The path that a diagnostic shows. -/
def path? : Stage → Option String
  | opening path | reading path _ => some path
  | argument _ | parsing _ _ => none

theorem lineBreaks_lineText (line : Option Int) : lineBreaks (lineText line).toList = [] := by
  cases line with
  | none => decide +kernel
  | some n => exact Text.lineBreaks_int n

/-- With a name and a reason in one line, only a path breaks a diagnostic. -/
theorem lineBreaks_message {stage : Stage} {reason : String} (words : lineBreaks reason.toList = [])
    (named : ∀ name, stage = argument name → lineBreaks name.toList = []) :
    lineBreaks (stage.message reason).toList = lineBreaks (stage.path?.getD "").toList := by
  have colon : lineBreaks ": ".toList = [] := by decide +kernel
  unfold message path?
  cases stage with
  | argument name =>
    have start : lineBreaks "Not enough arguments: expected ".toList = [] := by decide +kernel
    simp only [String.toList_append, lineBreaks_append, start, named name rfl]
    rfl
  | opening path =>
    have start : lineBreaks "Could not open file ".toList = [] := by decide +kernel
    simp only [String.toList_append, lineBreaks_append, start, colon, words, List.nil_append, List.append_nil,
      Option.getD_some]
  | reading path line =>
    have start : lineBreaks "Error reading file ".toList = [] := by decide +kernel
    have middle : lineBreaks " at line ".toList = [] := by decide +kernel
    simp only [String.toList_append, lineBreaks_append, start, middle, colon, words, lineBreaks_lineText,
      List.nil_append, List.append_nil, Option.getD_some]
  | parsing line text =>
    cases line with
    | none =>
      have start : lineBreaks "Could not parse argument ".toList = [] := by decide +kernel
      simp only [String.toList_append, lineBreaks_append, Text.lineBreaks_quote, start, colon, words]
      rfl
    | some n =>
      have start : lineBreaks "Error parsing line ".toList = [] := by decide +kernel
      have middle : lineBreaks " (".toList = [] ∧ lineBreaks "): ".toList = [] := by decide +kernel
      simp only [String.toList_append, lineBreaks_append, Text.lineBreaks_quote, Text.lineBreaks_int, start, middle,
        words]
      rfl

end Stage

namespace Transform

/-- A transform that a command can have: none, or an integer type of a width that there is room for. -/
def IsInteger (transform : Option Transform) : Prop :=
  ∀ chosen, transform = some chosen →
    ∃ type trimmed bound, chosen = integer type trimmed ∧ IntegerFormat.bound type = .ok bound

/-- Such a transform fails to parse a text, and in no other way. -/
theorem refused_of_run {transform : Option Transform} {number : Option Int} {line : String} {fault : Fault}
    (integers : IsInteger transform) (failed : run transform number line = .error fault) :
    ∃ text cause, IntegerFormat.Refused text cause ∧ fault = .failed (.parsing number line) (some cause) := by
  cases made : Transform.made transform line with
  | ok value =>
    rw [run_made number made] at failed
    cases failed
  | error cause =>
    cases transform with
    | none => cases made
    | some chosen =>
      obtain ⟨type, trimmed, bound, rfl, bounded⟩ := integers chosen rfl
      have parsed := eq_error_of_map_error made
      have kind := IntegerFormat.value_of_parse bounded parsed
      rw [run_declared number made ⟨_, rfl, .value, by simp [integer], kind⟩] at failed
      exact ⟨_, cause, IntegerFormat.refused_of_parse bounded parsed, (Except.error.inj failed).symm⟩

end Transform

/-- The failure that a result is, if it is one. -/
def Failure.ofResult? {α : Type} : Except Fault α → Option Failure
  | .ok _ => none
  | .error fault => ofFault? fault

theorem Failure.eq_error_of_ofResult? {α : Type} {result : Except Fault α} {failure : Failure}
    (found : ofResult? result = some failure) : result = .error failure.toFault := by
  cases result with
  | ok value => cases found
  | error fault =>
    cases fault with
    | plain | undecodable | integer => cases found
    | failed stage cause =>
      cases found
      rfl

namespace Command

/-- The failures that a command can end in, with what is known of their causes. -/
inductive Failing (command : Command) (argument : Option String) : Failure → Prop
  | unargued (missing : argument = none) : Failing command argument ⟨.argument command.argumentName, none⟩
  | unopened {path : String} (reads : command ≠ .parseArgument) (given : argument = some path) (refusal : Refusal) :
      Failing command argument ⟨.opening path, some (refusal.toFault path)⟩
  | unread {path : String} {codec : Text.Codec} {bytes : List UInt8} {cause : Text.Undecodable}
      (reads : command ≠ .parseArgument) (given : argument = some path) (number : Nat)
      (refused : codec.decode bytes = .error cause) :
      Failing command argument ⟨.reading path (some number), some (.undecodable cause)⟩
  | unparsed {text : String} {cause : Fault} (number : Option Int) (line : String)
      (refused : IntegerFormat.Refused text cause) : Failing command argument ⟨.parsing number line, some cause⟩

variable {command : Command} {argument : Option String} {failure : Failure}

theorem Failing.given_of_path (failing : command.Failing argument failure) {path : String}
    (shown : failure.stage.path? = some path) : command ≠ .parseArgument ∧ argument = some path := by
  cases failing with
  | unargued | unparsed => cases shown
  | unopened reads given | unread reads given =>
    cases shown
    exact ⟨reads, given⟩

theorem Failing.lineBreaks_reason (failing : command.Failing argument failure) :
    lineBreaks failure.reason.toList = [] := by
  cases failing with
  | unargued => exact (by decide +kernel : lineBreaks "None".toList = [])
  | @unopened path reads given refusal =>
    have words := refusal.lineBreaks_message
    rwa [← refusal.describe_toFault path] at words
  | unread reads given number refused => exact Text.Codec.lineBreaks_describe refused
  | unparsed number line refused => exact refused.lineBreaks_describe

theorem Failing.lineBreaks_message (failing : command.Failing argument failure) :
    lineBreaks failure.message.toList = lineBreaks (failure.stage.path?.getD "").toList := by
  rw [Failure.message_eq]
  refine Stage.lineBreaks_message failing.lineBreaks_reason ?_
  intro name named
  cases failing with
  | unargued =>
    cases named
    cases command <;> decide +kernel
  | unopened | unread | unparsed => cases named

variable {surroundings : Surroundings} {journal : Journal} {arguments : List String} {session : Session}
  {transform : Option Transform}

theorem isInteger_of_starts (starts : Starts surroundings journal arguments command session transform argument) :
    Transform.IsInteger transform := by
  cases starts with
  | @mk _ own _ _ _ _ parsed unhelped found settled parsedOwn unhelpedOwn single typed =>
    intro chosen given
    subst given
    cases command with
    | lines => cases typed
    | parseArgument =>
      cases typed
      exact ⟨.i32, false, 31, rfl, rfl⟩
    | numbers =>
      cases named : Transform.find ((own.value? "--type").getD "u64") with
      | error fault =>
        rw [Command.transform, named] at typed
        cases typed
      | ok other =>
        rw [Command.transform, named] at typed
        cases typed
        obtain ⟨type, bound, rfl, bounded⟩ := Transform.integer_of_find named
        exact ⟨type, true, bound, rfl, bounded⟩

theorem isText_of_starts (starts : Starts surroundings journal arguments command session transform argument) :
    Encoding.IsText session.settings.encoding := by
  cases starts with
  | mk parsed unhelped found settled => exact Settings.isText_of_load settled

/-- The failure of a pipeline is to open its file, to read a line or to parse one. -/
theorem failing_of_gather {path : String} {files : FileTree} (reads : command ≠ .parseArgument)
    (known : Encoding.IsText session.settings.encoding) (integers : Transform.IsInteger transform)
    (failed : ((session.pipeline command transform).gather files path).result = .error failure.toFault) :
    command.Failing (some path) failure := by
  have opener := session.opener_pipeline command transform
  obtain ⟨stage, cause⟩ := failure
  cases readable : files.read path with
  | error refused =>
    rcases FileTree.refusal_of_read readable with rfl | ⟨refusal, rfl⟩
    · have foreign : FileTree.nullByte.isA .system = false := rfl
      simp only [Pipeline.gather, opener, LineReader.openFile, readable, foreign, Bool.false_eq_true, if_false] at failed
      cases failed
    · have system := refusal.system_toFault path
      simp only [Pipeline.gather, opener, LineReader.openFile, readable, system, if_true] at failed
      cases failed
      exact .unopened reads rfl refusal
  | ok content =>
    rcases Pipeline.gather_cases opener known readable with
      ⟨values, -, ended⟩ | ⟨before, raw, after, fault, -, -, stops, stopped⟩
    · rw [ended] at failed
      cases failed
    · have same : fault = .failed stage cause := Except.error.inj (stopped.symm.trans failed)
      cases stops with
      | unread broken kind =>
        obtain ⟨codec, undecodable, refused, rfl⟩ := Encoding.refused_of_decode_error known broken
        cases same
        exact .unread reads rfl _ refused
      | untransformed decoded unmade =>
        obtain ⟨text, reason, refused, rfl⟩ := Transform.refused_of_run integers unmade
        cases same
        exact .unparsed _ _ refused

/-- Whatever files there are, a command that fails does so in one of these ways. -/
theorem failing_of_result {files : FileTree} (known : Encoding.IsText session.settings.encoding)
    (integers : Transform.IsInteger transform)
    (failed : session.result command transform argument files = .error failure.toFault) :
    command.Failing argument failure := by
  obtain ⟨stage, cause⟩ := failure
  cases argument with
  | none =>
    cases failed
    exact .unargued rfl
  | some argument =>
    cases command with
    | lines | numbers => exact failing_of_gather (by decide) known integers failed
    | parseArgument =>
      obtain ⟨text, reason, refused, same⟩ := Transform.refused_of_run integers (eq_error_of_map_error failed)
      cases same
      exact .unparsed none argument refused

/-- A command that fails prints its failure's diagnostic and nothing else. A path in the diagnostic is the command's
argument; where a text was to be parsed there is none. The diagnostic has the line breaks of that path and no others, so
it is one line just if the path is of one line. -/
theorem diagnostic_broken_only_by_path
    (starts : Starts surroundings journal arguments command session transform argument)
    (logs : session.CanLog command journal)
    (failed : session.result command transform argument
      (session.filesOnOpening command transform journal (argument.getD "")) = .error failure.toFault) :
    let finish := invoke surroundings journal arguments
    let shown := failure.stage.path?.getD ""
    finish.out = "" ∧ finish.err = echo failure.message ∧
      (∀ path, failure.stage.path? = some path → command ≠ .parseArgument ∧ argument = some path) ∧
      lineBreaks failure.message.toList = lineBreaks shown.toList ∧
      (Text.IsLine finish.err.toList ↔ lineBreaks shown.toList = []) := by
  intro finish shown
  obtain ⟨level, known⟩ := level_of_starts starts
  obtain ⟨logFile, created⟩ := Session.created_of_canLog logs known
  obtain ⟨shows, -⟩ := session.attempt_shows surroundings (agreed_of_starts starts) journal argument
  rw [failed] at shows
  obtain ⟨-, silent, told, -⟩ := shows
  have printed : finish.out = "" ∧ finish.err = echo failure.message := by
    have course : finish = _ := invoke_of_starts starts
    rw [course, Session.run_of_created created]
    simp only
    -- A report that cannot be written changes how the run ends, and not what has been printed.
    split <;> exact ⟨silent, told⟩
  have failing := failing_of_result (isText_of_starts starts) (isInteger_of_starts starts) failed
  have breaks : lineBreaks failure.message.toList = lineBreaks shown.toList := failing.lineBreaks_message
  refine ⟨printed.1, printed.2, fun path => failing.given_of_path, breaks, ?_⟩
  rw [printed.2, isLine_echo_iff, breaks]

/-- A path of two lines makes a diagnostic of two. -/
theorem diagnostic_broken_only_by_path_twice :
    let journal : Journal := ⟨⟨[], []⟩, [], "now"⟩
    let surroundings : Surroundings := ⟨[], "now", "fresh", 100, 100.25⟩
    let arguments := ["lines", "a\nb"]
    let session : Session := ⟨"fresh", ⟨"INFO", none, none, "utf-8"⟩, [], none⟩
    let finish := invoke surroundings journal arguments
    Starts surroundings journal arguments .lines session none (some "a\nb") ∧ session.CanLog .lines journal ∧
      (∃ failure : Failure, session.result .lines none (some "a\nb")
        (session.filesOnOpening .lines none journal "a\nb") = .error failure.toFault) ∧
      finish.err = "Could not open file a\nb: No such file or directory\n" ∧ ¬ Text.IsLine finish.err.toList := by
  intro journal surroundings arguments session finish
  have starts : Starts surroundings journal arguments .lines session none (some "a\nb") := by
    let words : Words := ⟨[], false, ["lines", "a\nb"]⟩
    have parsed : Words.parse sharedRules arguments = .ok words := by decide +kernel
    have settled : Settings.load journal.files surroundings.environment (words.value? "--config") (overrides words) =
        .ok ⟨session.settings, session.sources⟩ := eq_ok_of_toOption (by decide +kernel)
    have own : Words.parse lines.rules ["a\nb"] = .ok ⟨[], false, ["a\nb"]⟩ := by decide +kernel
    have named : runIdOf surroundings words = "fresh" := by decide +kernel
    have unset : words.value? "--config" = none := by decide +kernel
    have starts := Starts.mk parsed rfl rfl settled own rfl (by decide) rfl
    rw [named, unset] at starts
    exact starts
  have logs : session.CanLog .lines journal := by
    intro directory set
    cases set
  have seen : (Failure.ofResult? (session.result .lines none (some "a\nb")
      (session.filesOnOpening .lines none journal "a\nb"))).map (fun failure => (failure.message, failure.stage)) =
      some ("Could not open file a\nb: No such file or directory", .opening "a\nb") := by decide +kernel
  obtain ⟨failure, found, told⟩ := Option.map_eq_some_iff.mp seen
  obtain ⟨message, stage⟩ := Prod.mk.inj told
  have failed := Failure.eq_error_of_ofResult? found
  obtain ⟨-, err, -, -, one⟩ := diagnostic_broken_only_by_path starts logs failed
  rw [message] at err
  rw [stage] at one
  exact ⟨starts, logs, ⟨failure, failed⟩, err.trans (by decide +kernel), one.not.mpr (by decide +kernel)⟩

end Command

end Linewise
