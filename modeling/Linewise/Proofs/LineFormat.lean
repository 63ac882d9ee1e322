import Linewise.Proofs.LinesOfText
import Linewise.Proofs.Utf8Canonical

/-! Lines as a format. A text is written from its lines by giving each a line break, of one character or two, and
leaving it out at the end if something stands there. Every text is written in exactly one way, and in UTF-8 the
lines read back are those that were written. -/
namespace Linewise.Text

/-- A line with its line break. A carriage return at the end of the line itself would be taken for a part of the
break, unless the break has one of its own. -/
@[ext] structure EndedLine where
  text : String
  returned : Bool
  unbroken : '\n' ∉ text.toList
  apart : returned = false → text.toList.getLast? ≠ some '\r'

namespace EndedLine

/-- The line up to its line feed. -/
def body (line : EndedLine) : List Char := line.text.toList ++ if line.returned then ['\r'] else []

def write (line : EndedLine) : List Char := line.body ++ ['\n']

theorem unbroken_body (line : EndedLine) : '\n' ∉ line.body := by
  have unbroken := line.unbroken
  unfold body
  split <;> simp [unbroken]

theorem withoutLast_body (line : EndedLine) : withoutLast '\r' line.body = line.text.toList := by
  unfold body
  cases returned : line.returned with
  | true => exact withoutLast_concat '\r' line.text.toList
  | false =>
    rw [if_neg (by simp), List.append_nil]
    exact withoutLast_of_ne (line.apart returned)

/-- The break of a line can be told from its end. -/
theorem eq_of_body {line other : EndedLine} (same : line.body = other.body) : line = other := by
  have text : line.text = other.text := by
    rw [← String.toList_inj, ← withoutLast_body, ← withoutLast_body, same]
  refine EndedLine.ext text ?_
  have breaks : (if line.returned then ['\r'] else []) = if other.returned then ['\r'] else [] := by
    simpa [body, text] using same
  cases returned : line.returned <;> cases returned' : other.returned <;> simp_all

theorem exists_body {line : List Char} (unbroken : '\n' ∉ line) : ∃ ended : EndedLine, ended.body = line := by
  by_cases returned : line.getLast? = some '\r'
  · obtain ⟨text, rfl⟩ := List.getLast?_eq_some_iff.mp returned
    have inside : '\n' ∉ (String.ofList text).toList := by
      rw [String.toList_ofList]
      exact fun member => unbroken (List.mem_append_left _ member)
    exact ⟨⟨String.ofList text, true, inside, by simp⟩, by simp [body]⟩
  · exact ⟨⟨String.ofList line, false, by simpa using unbroken, by simpa using returned⟩, by simp [body]⟩

end EndedLine

/-- A text in lines: those with a line break, and what stands after the last of them. -/
@[ext] structure Layout where
  ended : List EndedLine
  last : String
  unbroken : '\n' ∉ last.toList

namespace Layout

def write (layout : Layout) : List Char := layout.ended.flatMap EndedLine.write ++ layout.last.toList

/-- The lines; what stands at the end is one only if it is not empty. -/
def lines (layout : Layout) : List String :=
  layout.ended.map (·.text) ++ if layout.last = "" then [] else [layout.last]

theorem write_nil {last : String} (unbroken : '\n' ∉ last.toList) : write ⟨[], last, unbroken⟩ = last.toList := by
  simp [write]

theorem write_cons (line : EndedLine) (ended : List EndedLine) {last : String} (unbroken : '\n' ∉ last.toList) :
    write ⟨line :: ended, last, unbroken⟩ = line.body ++ '\n' :: write ⟨ended, last, unbroken⟩ := by
  simp [write, EndedLine.write]

theorem lines_write_last {last : String} (unbroken : '\n' ∉ last.toList) :
    Text.lines last.toList = (if last = "" then [] else [last]).map String.toList := by
  by_cases empty : last = ""
  · simp [empty, Text.lines]
  · rw [if_neg empty, Text.lines, cutLines_unbroken '\r' unbroken (by simpa using empty)]
    rfl

/-- Cutting a text that was written from its lines gives those lines. -/
theorem lines_write (layout : Layout) : Text.lines layout.write = layout.lines.map String.toList := by
  obtain ⟨ended, last, unbroken⟩ := layout
  induction ended with
  | nil =>
    rw [write_nil]
    exact lines_write_last unbroken
  | cons line ended ih =>
    rw [write_cons, Text.lines, cutLines_break '\r' line.unbroken_body, line.withoutLast_body, ← Text.lines, ih]
    rfl

theorem exists_write (text : List Char) : ∃ layout : Layout, layout.write = text := by
  induction text using cut_induction '\n' with
  | empty => exact ⟨⟨[], "", by simp⟩, by simp [write]⟩
  | last line unbroken filled => exact ⟨⟨[], String.ofList line, by simpa using unbroken⟩, by simp [write]⟩
  | next line rest unbroken ih =>
    obtain ⟨⟨ended, last, unbrokenLast⟩, rfl⟩ := ih
    obtain ⟨first, rfl⟩ := EndedLine.exists_body unbroken
    exact ⟨⟨first :: ended, last, unbrokenLast⟩, write_cons first ended unbrokenLast⟩

/-- No text is written in two ways: its first line feed shows where the first line ends. -/
theorem write_injective : Function.Injective write := by
  rintro ⟨ended, last, unbroken⟩ ⟨ended', last', unbroken'⟩ same
  induction ended generalizing ended' with
  | nil =>
    cases ended' with
    | nil =>
      rw [write_nil, write_nil] at same
      exact Layout.ext rfl (String.toList_inj.mp same)
    | cons line' ended' =>
      rw [write_nil, write_cons] at same
      exact absurd (by simp [same]) unbroken
  | cons line ended ih =>
    cases ended' with
    | nil =>
      rw [write_nil, write_cons] at same
      exact absurd (by simp [← same]) unbroken'
    | cons line' ended' =>
      rw [write_cons, write_cons] at same
      have cut := congrArg (List.splitOn '\n') same
      rw [List.splitOn_append_cons_self_of_not_mem line.unbroken_body,
        List.splitOn_append_cons_self_of_not_mem line'.unbroken_body] at cut
      obtain rfl := EndedLine.eq_of_body (List.cons.inj cut).1
      obtain ⟨rfl, rfl⟩ := Layout.mk.inj (ih ended' (List.cons.inj (List.append_cancel_left same)).2)
      rfl

end Layout

theorem Codec.scan_utf8_iff {bytes : List UInt8} {text : List Char} :
    Codec.utf8.scan bytes = .ok text ↔ Utf8.encode text = bytes := by
  rw [← Utf8.decode_eq_ok_iff]
  simp only [Codec.scan, Codec.decode]
  cases Utf8.decode bytes with
  | error flaw => constructor <;> intro read <;> cases read
  | ok chars => constructor <;> intro read <;> cases read <;> rfl

end Linewise.Text

namespace Linewise.LineReader

open Text (Layout)

section

variable (path : String) {name : String} {codec : Text.Codec} (known : Encoding.find name = .ok (.text codec))
  (plain : codec ∈ Text.Codec.plain) {content : List UInt8}

theorem list_ofBytes (path name : String) (content : List UInt8) :
    (ofHandle path name (.ofBytes content)).list =
      listFrom ((Handle.chunks content).length + 1) (atWork path name 0 (Handle.chunks content) []) := by
  simp [list, ofHandle_ofBytes, atWork]

include known plain

/-- A content that is a text is listed to its end. -/
theorem list_of_scan {text : List Char} (read : codec.scan content = .ok text) :
    let listing := (ofHandle path name (.ofBytes content)).list
    listing.lines = (Text.lines text).map String.ofList ∧ listing.stop = none := by
  obtain ⟨spells, scan, spelling, same⟩ := Text.Codec.exists_spelling plain
  rw [list_ofBytes]
  exact listFrom_of_scan spelling same known path [] ((same content).symm.trans read) 0 _ le_rfl

/-- What is listed to its end is a text. -/
theorem exists_scan_of_list (ended : (ofHandle path name (.ofBytes content)).list.stop = none) :
    ∃ text, codec.scan content = .ok text := by
  obtain ⟨spells, scan, spelling, same⟩ := Text.Codec.exists_spelling plain
  cases read : scan 0 content with
  | ok text => exact ⟨text, (same content).trans read⟩
  | error place =>
    obtain ⟨_, _, cause, -, -, -, -, stopped⟩ := listFrom_of_flaw spelling same known path [] read 0 _ le_rfl
    rw [list_ofBytes, stopped] at ended
    cases ended

end

/-- In UTF-8 the lines of a text survive being written, whatever line breaks they are given. And every content that is
read to its end was written so, in one way, from the lines that were read. -/
theorem layout_read_back (path : String) {name : String} (known : Encoding.find name = .ok (.text .utf8)) :
    (∀ layout : Layout,
      let listing := (ofHandle path name (.ofBytes (Text.Utf8.encode layout.write))).list
      listing.lines = layout.lines ∧ listing.stop = none) ∧
    ∀ content,
      let listing := (ofHandle path name (.ofBytes content)).list
      listing.stop = none →
        ∃ layout : Layout, Text.Utf8.encode layout.write = content ∧ layout.lines = listing.lines ∧
          ∀ other : Layout, Text.Utf8.encode other.write = content → other = layout := by
  have plain : Text.Codec.utf8 ∈ Text.Codec.plain := by simp [Text.Codec.plain]
  have forward (layout : Layout) :
      let listing := (ofHandle path name (.ofBytes (Text.Utf8.encode layout.write))).list
      listing.lines = layout.lines ∧ listing.stop = none := by
    obtain ⟨listed, stopped⟩ := list_of_scan path known plain (Text.Codec.scan_utf8_iff.mpr rfl)
    refine ⟨listed.trans ?_, stopped⟩
    rw [layout.lines_write]
    simp
  refine ⟨forward, ?_⟩
  intro content listing ended
  obtain ⟨text, read⟩ := exists_scan_of_list path known plain ended
  obtain ⟨layout, rfl⟩ := Layout.exists_write text
  obtain rfl := Text.Codec.scan_utf8_iff.mp read
  refine ⟨layout, rfl, (forward layout).1.symm, ?_⟩
  intro other same
  have decoded := Text.Codec.scan_utf8_iff.mpr same
  rw [read] at decoded
  exact (Layout.write_injective (Except.ok.inj decoded)).symm

/-- A line that ends in a carriage return, an empty one, and an open end with a carriage return and a line separator
that does not cut. -/
theorem layout_read_back_returns :
    let content := Text.Utf8.encode "é\r\r\n\nz\u2028\r".toList
    let listing := (ofHandle "f" "utf-8" (.ofBytes content)).list
    Encoding.find "utf-8" = .ok (.text .utf8) ∧ listing.stop = none ∧ listing.lines = ["é\r", "", "z\u2028\r"] ∧
      ∃ layout : Layout, Text.Utf8.encode layout.write = content ∧ layout.lines = listing.lines ∧
        ∀ other : Layout, Text.Utf8.encode other.write = content → other = layout := by
  let layout : Layout :=
    ⟨[⟨"é\r", true, by decide, by decide⟩, ⟨"", false, by decide, by decide⟩], "z\u2028\r", by decide⟩
  have written : "é\r\r\n\nz\u2028\r".toList = layout.write := by decide
  have known := Encoding.find_utf8
  obtain ⟨listed, stopped⟩ := (layout_read_back "f" known).1 layout
  rw [← written] at listed stopped
  exact ⟨known, stopped, listed, (layout_read_back "f" known).2 _ stopped⟩

end Linewise.LineReader
