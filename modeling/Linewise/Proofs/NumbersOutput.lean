import Linewise.Proofs.CommandOutcome
import Linewise.Proofs.IntegerText
import Linewise.Proofs.LinesOfText
import Linewise.Proofs.PlainText

/-! What `numbers` prints: one line for each line it reads, with the number in canonical form. Its output is therefore
a file that it accepts, and prints again as it is. -/
namespace Linewise

open IntegerFormat (Canonical Denotes)

namespace IntegerFormat.Canonical

variable {n : Int} {form : List Char}

theorem isAscii (canonical : Canonical n form) : Text.IsAscii form := fun _ member =>
  Nat.lt_trans (canonical.char_bounds member).2 (by decide)

theorem not_blank (canonical : Canonical n form) {c : Char} (member : c ∈ form) : Text.isBlank c = false := by
  have bounds := canonical.char_bounds member
  simp only [Text.isBlank, Bool.or_eq_false_iff, Bool.and_eq_false_iff, decide_eq_false_iff_not, beq_eq_false_iff_ne]
  omega

end IntegerFormat.Canonical

/-- A number is printed on a line by itself, in canonical form. -/
theorem toList_echo_int (n : Int) : (echo (Value.int n).render).toList = (toString n).toList ++ ['\n'] := by
  have unescaped : '\x1b' ∉ (toString n).toList := (IntegerFormat.canonical_toString n).not_mem (by decide)
  rw [echo, Value.render, Text.stripEscapes_of_unescaped unescaped, String.toList_append]
  rfl

/-- The output for a list of numbers. -/
theorem toList_join_echo (numbers : List Int) :
    (String.join ((numbers.map Value.int).map (echo ·.render))).toList =
      (numbers.map fun n => (toString n).toList).flatMap (· ++ ['\n']) := by
  rw [String.toList_join, List.map_map, List.flatMap_map, List.flatMap_map]
  exact List.flatMap_congr fun n _ => toList_echo_int n

namespace Pipeline

variable {encoding : String} {type : IntegerFormat}

/-- A line in bytes that is read and parsed as a number, without the white space around it. -/
def Parses (encoding : String) (type : IntegerFormat) (raw : List UInt8) (n : Int) : Prop :=
  ∃ line, Encoding.decode encoding raw = .ok line ∧ type.parse (Text.trim line) = .ok n

/-- A line in bytes that denotes a number, without the white space around it. -/
def Denoted (encoding : String) (signed : Bool) (raw : List UInt8) (n : Int) : Prop :=
  ∃ line, Encoding.decode encoding raw = .ok line ∧ Denotes signed (Text.trim line).toList n

theorem denoted_of_parses {raw : List UInt8} {n : Int} (parses : Parses encoding type raw n) :
    Denoted encoding type.signed raw n := by
  obtain ⟨line, decoded, parsed⟩ := parses
  exact ⟨line, decoded, IntegerFormat.denotes_of_parse parsed⟩

theorem accepts_int_iff {raw : List UInt8} {value : Value} :
    Accepts encoding (some (.integer type true)) raw value ↔ ∃ n, value = .int n ∧ Parses encoding type raw n := by
  constructor
  · rintro ⟨line, decoded, made⟩
    cases parsed : type.parse (Text.trim line) with
    | error fault =>
      simp only [Transform.made, Transform.integer, if_true, parsed] at made
      cases made
    | ok n =>
      simp only [Transform.made, Transform.integer, if_true, parsed] at made
      cases made
      exact ⟨n, rfl, line, decoded, parsed⟩
  · rintro ⟨n, rfl, line, decoded, parsed⟩
    refine ⟨line, decoded, ?_⟩
    simp only [Transform.made, Transform.integer, if_true, parsed]
    rfl

/-- Lines are accepted as numbers if they are parsed as such. -/
theorem accepted_ints_iff {lines : List (List UInt8)} {values : List Value} :
    List.Forall₂ (Accepts encoding (some (.integer type true))) lines values ↔
      ∃ numbers : List Int, values = numbers.map .int ∧ List.Forall₂ (Parses encoding type) lines numbers := by
  constructor
  · intro accepted
    induction accepted with
    | nil => exact ⟨[], rfl, .nil⟩
    | cons first later ih =>
      obtain ⟨n, rfl, parses⟩ := accepts_int_iff.mp first
      obtain ⟨numbers, rfl, others⟩ := ih
      exact ⟨n :: numbers, rfl, .cons parses others⟩
  · rintro ⟨numbers, rfl, parses⟩
    exact List.forall₂_map_right_iff.mpr (parses.imp fun raw n parsed => accepts_int_iff.mpr ⟨n, rfl, parsed⟩)

/-- A number that was parsed once is parsed from its printed form, in every plain encoding. -/
theorem parses_toString {codec : Text.Codec} (known : Encoding.find encoding = .ok (.text codec))
    (plain : codec ∈ Text.Codec.plain) {other : String} {raw : List UInt8} {n : Int}
    (parses : Parses other type raw n) :
    Parses encoding type (Text.Utf8.encode (toString n).toList) n := by
  obtain ⟨line, -, parsed⟩ := parses
  have canonical := IntegerFormat.canonical_toString n
  have decoded := Encoding.decode_of_scan known (Text.Codec.scan_of_ascii plain canonical.isAscii)
  rw [String.ofList_toList] at decoded
  refine ⟨toString n, decoded, ?_⟩
  rw [Text.trim_of_solid fun c member => canonical.not_blank member]
  exact IntegerFormat.parse_toString_of_parse parsed

/-- Numbers that were parsed once are parsed again, in order, from what is printed for them. -/
theorem printed_parses {codec : Text.Codec} (known : Encoding.find encoding = .ok (.text codec))
    (plain : codec ∈ Text.Codec.plain) {other : String} {lines : List (List UInt8)} {numbers : List Int}
    (parses : List.Forall₂ (Parses other type) lines numbers) :
    let printed := (numbers.map fun n => (toString n).toList).flatMap (· ++ ['\n'])
    List.Forall₂ (Parses encoding type) (Text.byteLines (Text.Utf8.encode printed)) numbers := by
  intro printed
  have each : List.Forall₂ (fun n => Parses encoding type (Text.Utf8.encode (toString n).toList)) numbers numbers := by
    induction parses with
    | nil => exact .nil
    | cons first later ih => exact .cons (parses_toString known plain first) ih
  have canonical : ∀ text ∈ numbers.map fun n => (toString n).toList, ∃ n, Canonical n text := by
    intro text member
    obtain ⟨n, -, rfl⟩ := List.mem_map.mp member
    exact ⟨n, IntegerFormat.canonical_toString n⟩
  -- No form has a line break in it, so the output is cut where the lines were put together.
  rw [Text.byteLines_encode]
  · rw [List.map_map]
    exact List.forall₂_map_left_iff.mpr each
  · intro text member
    obtain ⟨n, form⟩ := canonical text member
    exact form.isAscii
  · intro text member
    obtain ⟨n, form⟩ := canonical text member
    exact ⟨form.not_mem (by decide), form.not_mem (by decide)⟩

end Pipeline

theorem Attempt.Shows.values_of_success {attempt : Attempt} {result : Except Fault (List Value)}
    (shows : attempt.Shows result) (succeeded : attempt.result = .ok 0) :
    ∃ values, result = .ok values ∧ attempt.out = String.join (values.map (echo ·.render)) := by
  cases result with
  | ok values => exact ⟨values, rfl, shows.2.1⟩
  | error fault =>
    simp only [Attempt.Shows] at shows
    split at shows
    · rw [shows.1] at succeeded
      cases succeeded
    · rw [shows.1] at succeeded
      cases succeeded

namespace Command

variable {surroundings : Surroundings} {journal : Journal} {arguments : List String} {session : Session}
  {type : IntegerFormat}

/-- Where `numbers` succeeds there is a file, each of its lines is parsed as a number, and these are printed. -/
theorem numbers_of_exit {argument : Option String} (known : Encoding.IsText session.settings.encoding)
    (starts : Starts surroundings journal arguments .numbers session (some (.integer type true)) argument)
    (succeeded : (invoke surroundings journal arguments).ending = .exit 0) :
    ∃ path content numbers, argument = some path ∧
      (session.filesOnOpening .numbers (some (.integer type true)) journal path).read path = .ok content ∧
      List.Forall₂ (Pipeline.Parses session.settings.encoding type) (Text.byteLines content) numbers ∧
      (invoke surroundings journal arguments).out = String.join ((numbers.map Value.int).map (echo ·.render)) := by
  rw [invoke_of_starts starts] at succeeded ⊢
  obtain ⟨finished, out⟩ := Session.attempt_of_exit succeeded
  rw [out]
  obtain ⟨shows, -⟩ := session.attempt_shows surroundings (agreed_of_starts starts) journal argument
  obtain ⟨values, gathered, printed⟩ := shows.values_of_success finished
  cases argument with
  | none => cases gathered
  | some path =>
    obtain ⟨content, readable, accepted⟩ := Pipeline.accepted_of_gather (session.opener_pipeline _ _) known gathered
    obtain ⟨numbers, rfl, parses⟩ := Pipeline.accepted_ints_iff.mp accepted
    exact ⟨path, content, numbers, rfl, readable, parses, printed⟩

/-- Where each line of a file is parsed as a number, `numbers` succeeds and prints them. -/
theorem exit_of_numbers {path : String} {content : List UInt8} {numbers : List Int}
    (starts : Starts surroundings journal arguments .numbers session (some (.integer type true)) (some path))
    (logs : session.CanLog .numbers journal)
    (reports : session.CanReport surroundings .numbers (session.opened .numbers journal).files)
    (readable : (session.filesOnOpening .numbers (some (.integer type true)) journal path).read path = .ok content)
    (parses : List.Forall₂ (Pipeline.Parses session.settings.encoding type) (Text.byteLines content) numbers) :
    (invoke surroundings journal arguments).ending = .exit 0 ∧
      (invoke surroundings journal arguments).out = String.join ((numbers.map Value.int).map (echo ·.render)) := by
  have accepted := Pipeline.accepted_ints_iff.mpr ⟨numbers, rfl, parses⟩
  have gathered := Pipeline.gather_accepted (session.opener_pipeline .numbers (some (.integer type true))) readable
    accepted
  obtain ⟨ended, -, printed⟩ := exit_of_result starts logs reports gathered
  exact ⟨ended, printed⟩

/-- Where `numbers` succeeds, its output is the canonical form of the number that each line denotes, in order and each
with a line feed. Given this output as a file, with the same type and encoding, it succeeds and prints it again. -/
theorem numbers_idempotent {argument : Option String} {codec : Text.Codec}
    (starts : Starts surroundings journal arguments .numbers session (some (.integer type true)) argument)
    (known : Encoding.find session.settings.encoding = .ok (.text codec)) (plain : codec ∈ Text.Codec.plain)
    (succeeded : (invoke surroundings journal arguments).ending = .exit 0) :
    let out := (invoke surroundings journal arguments).out
    (∃ path content numbers forms, argument = some path ∧
      (session.filesOnOpening .numbers (some (.integer type true)) journal path).read path = .ok content ∧
      List.Forall₂ (Pipeline.Denoted session.settings.encoding type.signed) (Text.byteLines content) numbers ∧
      List.Forall₂ Canonical numbers forms ∧ out.toList = forms.flatMap (· ++ ['\n'])) ∧
    ∀ surroundings' journal' arguments' session' path',
      Starts surroundings' journal' arguments' .numbers session' (some (.integer type true)) (some path') →
      session'.settings.encoding = session.settings.encoding →
      session'.CanLog .numbers journal' →
      session'.CanReport surroundings' .numbers (session'.opened .numbers journal').files →
      (session'.filesOnOpening .numbers (some (.integer type true)) journal' path').read path' =
        .ok (Text.Utf8.encode out.toList) →
      (invoke surroundings' journal' arguments').ending = .exit 0 ∧
        (invoke surroundings' journal' arguments').out = out := by
  intro out
  obtain ⟨path, content, numbers, given, readable, parses, printed⟩ := numbers_of_exit ⟨codec, known⟩ starts succeeded
  have written : out.toList = (numbers.map fun n => (toString n).toList).flatMap (· ++ ['\n']) :=
    (congrArg String.toList printed).trans (toList_join_echo numbers)
  refine ⟨⟨path, content, numbers, _, given, readable, ?_, ?_, written⟩, ?_⟩
  · exact parses.imp fun raw n => Pipeline.denoted_of_parses
  · rw [List.forall₂_map_right_iff, List.forall₂_same]
    exact fun n _ => IntegerFormat.canonical_toString n
  · intro surroundings' journal' arguments' session' path' starts' same logs reports readable'
    have again := Pipeline.printed_parses known plain parses
    rw [← written, ← same] at again
    obtain ⟨ended, printed'⟩ := exit_of_numbers starts' logs reports readable' again
    exact ⟨ended, printed'.trans printed.symm⟩

/-- White space, a plus sign, zeros in front and the sign of a zero are read and not printed. -/
theorem numbers_idempotent_padded :
    let holding (content : List UInt8) : Journal := ⟨⟨[(["f"], .file content)], []⟩, [], "now"⟩
    let padded := holding [0xA0, 0x2B, 0x30, 0x37, 0x0D, 0x0A, 0x2D, 0x30]
    let printed := holding [0x37, 0x0A, 0x30, 0x0A]
    let surroundings : Surroundings := ⟨[], "now", "fresh", 100, 100.25⟩
    let arguments := ["--run-id", "r", "--encoding", "cp1252", "numbers", "--type", "i64", "f"]
    let session : Session := ⟨"r", ⟨"INFO", none, none, "cp1252"⟩, ["cli"], none⟩
    (∀ journal, Starts surroundings journal arguments .numbers session (some (.integer .i64 true)) (some "f")) ∧
      Encoding.find session.settings.encoding = .ok (.text (.page .cp1252)) ∧
      (invoke surroundings padded arguments).ending = .exit 0 ∧
      (invoke surroundings padded arguments).out = "7\n0\n" ∧
      (invoke surroundings printed arguments).ending = .exit 0 ∧
      (invoke surroundings printed arguments).out = "7\n0\n" := by
  intro holding padded printed surroundings arguments session
  have starts (journal : Journal) :
      Starts surroundings journal arguments .numbers session (some (.integer .i64 true)) (some "f") := by
    let words : Words := ⟨[("--run-id", "r"), ("--encoding", "cp1252")], false, ["numbers", "--type", "i64", "f"]⟩
    have parsed : Words.parse sharedRules arguments = .ok words := by decide +kernel
    have unset : words.value? "--config" = none := by decide +kernel
    have anywhere : Settings.load journal.files surroundings.environment none (overrides words) =
        Settings.load ⟨[], []⟩ surroundings.environment none (overrides words) := rfl
    have settled : Settings.load journal.files surroundings.environment (words.value? "--config") (overrides words) =
        .ok ⟨session.settings, session.sources⟩ := by
      rw [unset, anywhere]
      exact eq_ok_of_toOption (by decide +kernel)
    have own : Words.parse numbers.rules ["--type", "i64", "f"] = .ok ⟨[("--type", "i64")], false, ["f"]⟩ := by
      decide +kernel
    have named : runIdOf surroundings words = "r" := by decide +kernel
    have starts := Starts.mk parsed rfl rfl settled own rfl (by decide) rfl
    rw [named, unset] at starts
    exact starts
  have known : Encoding.find session.settings.encoding = .ok (.text (.page .cp1252)) :=
    eq_ok_of_toOption (by decide +kernel)
  have logs (journal : Journal) : session.CanLog .numbers journal := fun _ set => by cases set
  have reports (files : FileTree) : session.CanReport surroundings .numbers files := fun _ set => by cases set
  have parses : List.Forall₂ (Pipeline.Parses session.settings.encoding .i64)
      (Text.byteLines [0xA0, 0x2B, 0x30, 0x37, 0x0D, 0x0A, 0x2D, 0x30]) [7, 0] :=
    .cons ⟨"\u00A0+07", eq_ok_of_toOption (by decide +kernel), eq_ok_of_toOption (by decide +kernel)⟩
      (.cons ⟨"-0", eq_ok_of_toOption (by decide +kernel), eq_ok_of_toOption (by decide +kernel)⟩ .nil)
  have readable : (session.filesOnOpening .numbers (some (.integer .i64 true)) padded "f").read "f" =
      .ok [0xA0, 0x2B, 0x30, 0x37, 0x0D, 0x0A, 0x2D, 0x30] := eq_ok_of_toOption (by decide +kernel)
  have readable' : (session.filesOnOpening .numbers (some (.integer .i64 true)) printed "f").read "f" =
      .ok (Text.Utf8.encode "7\n0\n".toList) := eq_ok_of_toOption (by decide +kernel)
  obtain ⟨ended, out⟩ := exit_of_numbers (starts padded) (logs _) (reports _) readable parses
  have text : (invoke surroundings padded arguments).out = "7\n0\n" := out.trans (by decide +kernel)
  have idempotent := numbers_idempotent (starts padded) known (by decide) ended
  generalize invoke surroundings padded arguments = finish at ended text idempotent ⊢
  obtain ⟨-, again⟩ := idempotent
  obtain ⟨ended', out'⟩ := again surroundings printed arguments session "f" (starts printed) rfl (logs _) (reports _)
    (text ▸ readable')
  exact ⟨starts, known, ended, text, ended', out'.trans text⟩

end Command

end Linewise
