import Linewise.Proofs.CommandOutcome
import Linewise.Proofs.ControlSequences
import Linewise.Proofs.LineFormat

/-! What `lines` prints: the text of a file in lines that each end in one line feed, less the control sequences in it. So
a file is printed byte for byte, but for its line breaks, just if it holds no such sequence. -/
namespace Linewise

namespace Text

section

variable {α : Type} [DecidableEq α]

/-- Leaves out each `back` right before a `feed`. -/
def withoutReturns (feed back : α) : List α → List α
  | [] => []
  | x :: rest =>
    if x = back ∧ rest.head? = some feed then withoutReturns feed back rest else x :: withoutReturns feed back rest

/-- Ends a text in `feed`, if it is not empty and does not end so. -/
def closed (feed : α) (text : List α) : List α :=
  if text = [] ∨ text.getLast? = some feed then text else text ++ [feed]

/-- A text with the shorter of the two line breaks throughout, also after its last line. -/
def evenly (feed back : α) (text : List α) : List α := closed feed (withoutReturns feed back text)

variable {feed back : α} {line : List α}

theorem withoutReturns_unbroken (unbroken : feed ∉ line) : withoutReturns feed back line = line := by
  induction line with
  | nil => rfl
  | cons x rest ih =>
    have later : feed ∉ rest := fun member => unbroken (List.mem_cons_of_mem x member)
    have other : rest.head? ≠ some feed := fun first => later (List.mem_of_head? first)
    rw [withoutReturns, if_neg (fun both => other both.2), ih later]

theorem withoutReturns_break (apart : feed ≠ back) (unbroken : feed ∉ line) (rest : List α) :
    withoutReturns feed back (line ++ feed :: rest) = withoutLast back line ++ feed :: withoutReturns feed back rest := by
  induction line with
  | nil => simp [withoutReturns, withoutLast, apart]
  | cons x others ih =>
    have later : feed ∉ others := fun member => unbroken (List.mem_cons_of_mem x member)
    have next := ih later
    cases others with
    | nil =>
      by_cases returned : x = back
      · simpa [withoutReturns, withoutLast, returned] using next
      · simpa [withoutReturns, withoutLast, returned] using next
    | cons y others =>
      have other : y ≠ feed := fun same => later (by simp [same])
      rw [List.cons_append, withoutReturns, if_neg (by simp [other]), next]
      simp only [withoutLast, List.getLast?_cons_cons]
      split <;> simp

theorem closed_unbroken (unbroken : feed ∉ line) (filled : line ≠ []) : closed feed line = line ++ [feed] := by
  have other : line.getLast? ≠ some feed := fun last => unbroken (List.mem_of_getLast? last)
  rw [closed, if_neg (by simp [filled, other])]

theorem closed_break (feed : α) (line rest : List α) :
    closed feed (line ++ feed :: rest) = line ++ feed :: closed feed rest := by
  cases rest with
  | nil => simp [closed]
  | cons x rest =>
    simp only [closed, List.getLast?_append_cons, List.getLast?_cons_cons]
    split <;> simp_all

theorem evenly_unbroken (unbroken : feed ∉ line) (filled : line ≠ []) : evenly feed back line = line ++ [feed] := by
  rw [evenly, withoutReturns_unbroken unbroken, closed_unbroken unbroken filled]

theorem evenly_break (apart : feed ≠ back) (unbroken : feed ∉ line) (rest : List α) :
    evenly feed back (line ++ feed :: rest) = withoutLast back line ++ feed :: evenly feed back rest := by
  rw [evenly, withoutReturns_break apart unbroken, closed_break, ← evenly]

/-- The lines of a text, each with a line break. -/
theorem flatMap_cutLines (apart : feed ≠ back) (text : List α) :
    (cutLines feed back text).flatMap (· ++ [feed]) = evenly feed back text := by
  induction text using cut_induction feed with
  | empty => rfl
  | last line unbroken filled => simp [cutLines_unbroken back unbroken filled, evenly_unbroken unbroken filled]
  | next line rest unbroken ih =>
    rw [cutLines_break back unbroken, evenly_break apart unbroken, List.flatMap_cons, ih]
    simp

end

/-- Even line breaks are the same before and after a content is read. -/
theorem Spelling.scan_evenly {spells : List UInt8 → Char → Prop} {scan : Nat → List UInt8 → Except Nat (List Char)}
    (spelling : Spelling spells scan) {content : List UInt8} {text : List Char} (read : scan 0 content = .ok text) :
    scan 0 (evenly 0x0A 0x0D content) = .ok (evenly '\n' '\r' text) := by
  induction content using cut_induction (0x0A : UInt8) generalizing text with
  | empty =>
    rw [spelling.empty] at read
    cases read
    exact spelling.empty 0
  | last line unbroken filled =>
    have some : text ≠ [] := fun none => filled (spelling.eq_nil_of_scan_nil (none ▸ read))
    rw [evenly_unbroken unbroken filled, evenly_unbroken (spelling.unbroken_of_scan read unbroken) some,
      spelling.scan_concat 0 line (by decide), read]
    rfl
  | next line rest unbroken ih =>
    obtain ⟨first, others, early, late, rfl⟩ := spelling.scan_break_ok read
    rw [evenly_break (by decide) unbroken, evenly_break (by decide) (spelling.unbroken_of_scan early unbroken),
      spelling.scan_break, spelling.scan_withoutLast, early, ih late]
    rfl

theorem Utf8.encode_evenly (text : List Char) :
    encode (evenly '\n' '\r' text) = evenly 0x0A 0x0D (encode text) := by
  have plain : Codec.utf8 ∈ Codec.plain := by simp [Codec.plain]
  obtain ⟨spells, scan, spelling, same⟩ := Codec.exists_spelling plain
  have read : scan 0 (encode text) = .ok text := (same _).symm.trans (Codec.scan_utf8_iff.mpr rfl)
  exact Codec.scan_utf8_iff.mp ((same _).trans (spelling.scan_evenly read))

/-- Line breaks have no part in control sequences. -/
theorem unescaped_evenly {text : List Char} : Unescaped (evenly '\n' '\r' text) ↔ Unescaped text := by
  have feed : '\n'.toNat < 0x1B := by decide
  have back : '\r'.toNat < 0x1B := by decide
  induction text using cut_induction '\n' with
  | empty => exact Iff.rfl
  | last line unbroken filled =>
    rw [evenly_unbroken unbroken filled, unescaped_break feed]
    exact and_iff_left unescaped_nil
  | next line rest unbroken ih =>
    rw [evenly_break (by decide) unbroken, unescaped_break feed, unescaped_break feed]
    refine and_congr ?_ ih
    by_cases returned : line.getLast? = some '\r'
    · obtain ⟨body, rfl⟩ := List.getLast?_eq_some_iff.mp returned
      rw [withoutLast_concat, unescaped_break back]
      exact (and_iff_left unescaped_nil).symm
    · rw [withoutLast_of_ne returned]

/-- Lines that are stripped one by one are a text that is stripped. -/
theorem strip_flatMap (lines : List (List Char)) :
    stripFrom 0 (lines.flatMap (· ++ ['\n'])) = lines.flatMap fun line => stripFrom 0 line ++ ['\n'] := by
  induction lines with
  | nil => rfl
  | cons line lines ih =>
    rw [List.flatMap_cons, List.append_assoc, List.singleton_append, strip_break (by decide), ih]
    simp

end Text

/-- The output for the lines of a text. -/
theorem toList_join_echo_lines (text : List Char) :
    (String.join (((Text.lines text).map (Value.text ∘ String.ofList)).map (echo ·.render))).toList =
      Text.stripFrom 0 (Text.evenly '\n' '\r' text) := by
  rw [← Text.flatMap_cutLines (by decide), Text.strip_flatMap, String.toList_join, List.map_map, List.flatMap_map]
  refine List.flatMap_congr fun line _ => ?_
  simp [echo, Text.stripEscapes, Value.render]

/-- Each line of a text is accepted as it is. -/
theorem Pipeline.accepts_lines {name : String} {codec : Text.Codec} (known : Encoding.find name = .ok (.text codec))
    (plain : codec ∈ Text.Codec.plain) {content : List UInt8} {text : List Char} (read : codec.scan content = .ok text) :
    List.Forall₂ (Accepts name none) (Text.byteLines content) ((Text.lines text).map (Value.text ∘ String.ofList)) := by
  obtain ⟨spells, scan, spelling, same⟩ := Text.Codec.exists_spelling plain
  have accepts {raw : List UInt8} {line : List Char} (read : scan 0 raw = .ok line) :
      Accepts name none raw (.text (String.ofList line)) :=
    ⟨_, Encoding.decode_of_scan known ((same raw).trans read), rfl⟩
  rw [same] at read
  induction content using Text.cut_induction (0x0A : UInt8) generalizing text with
  | empty =>
    rw [spelling.empty] at read
    cases read
    exact .nil
  | last line unbroken filled =>
    have some : text ≠ [] := fun none => filled (spelling.eq_nil_of_scan_nil (none ▸ read))
    rw [Text.byteLines, Text.lines, Text.cutLines_unbroken _ unbroken filled,
      Text.cutLines_unbroken _ (spelling.unbroken_of_scan read unbroken) some]
    exact .cons (accepts read) .nil
  | next line rest unbroken ih =>
    obtain ⟨first, others, early, late, rfl⟩ := spelling.scan_break_ok read
    rw [Text.byteLines, Text.lines, Text.cutLines_break _ unbroken,
      Text.cutLines_break _ (spelling.unbroken_of_scan early unbroken), List.map_cons]
    refine .cons (accepts ?_) (ih late)
    rw [spelling.scan_withoutLast, early]
    rfl

namespace Command

variable {surroundings : Surroundings} {journal : Journal} {arguments : List String} {session : Session}

/-- Given a file in UTF-8, `lines` succeeds and prints its text with even line breaks, less the control sequences in
it. What is printed is the content of the file with even line breaks just if there are none. -/
theorem lines_reproduces_iff_unescaped {path : String} {content : List UInt8} {text : List Char}
    (starts : Starts surroundings journal arguments .lines session none (some path))
    (known : Encoding.find session.settings.encoding = .ok (.text .utf8)) (logs : session.CanLog .lines journal)
    (reports : session.CanReport surroundings .lines (session.opened .lines journal).files)
    (readable : (session.filesOnOpening .lines none journal path).read path = .ok content)
    (decoded : Text.Utf8.decode content = .ok text) :
    let finish := invoke surroundings journal arguments
    finish.ending = .exit 0 ∧ finish.err = "" ∧
      finish.out.toList = Text.stripFrom 0 (Text.evenly '\n' '\r' text) ∧
      Text.Utf8.encode (Text.evenly '\n' '\r' text) = Text.evenly 0x0A 0x0D content ∧
      (Text.Utf8.encode finish.out.toList = Text.evenly 0x0A 0x0D content ↔ Text.Unescaped text) := by
  intro finish
  have plain : Text.Codec.utf8 ∈ Text.Codec.plain := by simp [Text.Codec.plain]
  obtain rfl : Text.Utf8.encode text = content := Text.Utf8.decode_eq_ok_iff.mp decoded
  have read : Text.Codec.utf8.scan (Text.Utf8.encode text) = .ok text := Text.Codec.scan_utf8_iff.mpr rfl
  have accepted := Pipeline.accepts_lines known plain read
  have gathered := Pipeline.gather_accepted (session.opener_pipeline .lines none) readable accepted
  obtain ⟨ended, quiet, printed⟩ := exit_of_result starts logs reports gathered
  have out : finish.out.toList = Text.stripFrom 0 (Text.evenly '\n' '\r' text) :=
    (congrArg String.toList printed).trans (toList_join_echo_lines text)
  have same := Text.Utf8.encode_evenly text
  refine ⟨ended, quiet, out, same, ?_⟩
  rw [out, ← same, ← Text.unescaped_evenly, ← Text.strip_eq_self_iff]
  exact Text.Utf8.encode_injective.eq_iff

/-- A word in red is printed without its colour, and two plain lines are printed as they are. -/
theorem lines_reproduces_iff_unescaped_red :
    let holding (text : String) : Journal :=
      ⟨⟨[(["f"], .file (Text.Utf8.encode text.toList))], []⟩, [], "now"⟩
    let surroundings : Surroundings := ⟨[], "now", "fresh", 100, 100.25⟩
    let session : Session := ⟨"fresh", ⟨"INFO", none, none, "utf-8"⟩, [], none⟩
    let red := invoke surroundings (holding "\x1b[31mred") ["lines", "f"]
    let plain := invoke surroundings (holding "é\r\n[m") ["lines", "f"]
    (∀ journal, Starts surroundings journal ["lines", "f"] .lines session none (some "f")) ∧
      Encoding.find session.settings.encoding = .ok (.text .utf8) ∧
      red.ending = .exit 0 ∧ red.out = "red\n" ∧
      Text.Utf8.encode red.out.toList ≠ Text.evenly 0x0A 0x0D (Text.Utf8.encode "\x1b[31mred".toList) ∧
      plain.ending = .exit 0 ∧ plain.out = "é\n[m\n" ∧
      Text.Utf8.encode plain.out.toList = Text.evenly 0x0A 0x0D (Text.Utf8.encode "é\r\n[m".toList) := by
  intro holding surroundings session red plain
  have starts (journal : Journal) : Starts surroundings journal ["lines", "f"] .lines session none (some "f") := by
    let words : Words := ⟨[], false, ["lines", "f"]⟩
    have parsed : Words.parse sharedRules ["lines", "f"] = .ok words := by decide +kernel
    have anywhere : Settings.load journal.files surroundings.environment none (overrides words) =
        Settings.load ⟨[], []⟩ surroundings.environment none (overrides words) := rfl
    have settled : Settings.load journal.files surroundings.environment (words.value? "--config") (overrides words) =
        .ok ⟨session.settings, session.sources⟩ := anywhere.trans (eq_ok_of_toOption (by decide +kernel))
    have own : Words.parse lines.rules ["f"] = .ok ⟨[], false, ["f"]⟩ := by decide +kernel
    exact Starts.mk parsed rfl rfl settled own rfl (by decide) rfl
  have logs (journal : Journal) : session.CanLog .lines journal := by
    intro directory set
    cases set
  have reports (files : FileTree) : session.CanReport surroundings .lines files := by
    intro directory set
    cases set
  have prints (text : String) (readable : (session.filesOnOpening .lines none (holding text) "f").read "f" =
      .ok (Text.Utf8.encode text.toList)) := lines_reproduces_iff_unescaped (starts (holding text))
    Encoding.find_utf8 (logs _) (reports _) readable (Text.Utf8.decode_eq_ok_iff.mpr rfl)
  obtain ⟨ended, -, out, -, same⟩ := prints "\x1b[31mred" (eq_ok_of_toOption (by decide +kernel))
  obtain ⟨ended', -, out', -, same'⟩ := prints "é\r\n[m" (eq_ok_of_toOption (by decide +kernel))
  have coloured : ¬ Text.Unescaped "\x1b[31mred".toList := by
    have inside : ∀ c ∈ ['3', '1'], Text.isParameter c = true :=
      List.forall_mem_cons.mpr ⟨by decide, List.forall_mem_singleton.mpr (by decide)⟩
    have sequence : Text.IsSequence ('\x1b' :: '[' :: (['3', '1'] ++ ['m'])) := .mk inside (by decide)
    exact fun unescaped => unescaped _ sequence ⟨[], "red".toList, by decide +kernel⟩
  have uncoloured : Text.Unescaped "é\r\n[m".toList := Text.strip_eq_self_iff.mp (by decide +kernel)
  refine ⟨starts, Encoding.find_utf8, ended, ?_, coloured ∘ same.mp, ended', ?_, same'.mpr uncoloured⟩
  · exact String.toList_inj.mp (out.trans (by decide +kernel))
  · exact String.toList_inj.mp (out'.trans (by decide +kernel))

end Command

end Linewise
