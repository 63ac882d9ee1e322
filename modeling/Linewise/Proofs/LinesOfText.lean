import Linewise.Proofs.PlainCodecs
import Linewise.Proofs.Reading

/-! Cutting bytes before they are read agrees with reading them before they are cut. In an encoding that spells
ASCII characters as themselves, the lines listed from a content are those of its text; where the content is no
text, the lines before its first flaw are listed, and the line of the flaw is the one that cannot be read. -/
namespace Linewise

namespace Text.Spelling

variable {spells : List UInt8 → Char → Prop} {scan : Nat → List UInt8 → Except Nat (List Char)}

theorem scan_concat (spelling : Spelling spells scan) (pos : Nat) (line : List UInt8) {b : UInt8} (low : b < 0x80) :
    scan pos (line ++ [b]) = (· ++ [Char.ofNat b.toNat]) <$> scan pos line := by
  rw [spelling.scan_split pos line low [], spelling.empty]
  cases scan pos line <;> rfl

/-- A carriage return at the end of a line is the same before and after it is read. -/
theorem scan_withoutLast (spelling : Spelling spells scan) (pos : Nat) (line : List UInt8) :
    scan pos (withoutLast 0x0D line) = withoutLast '\r' <$> scan pos line := by
  by_cases returned : line.getLast? = some 0x0D
  · obtain ⟨body, rfl⟩ := List.getLast?_eq_some_iff.mp returned
    rw [spelling.scan_concat pos body (by decide), withoutLast_concat]
    cases scan pos body with
    | error _ => rfl
    | ok text => exact congrArg Except.ok (withoutLast_concat '\r' text).symm
  · rw [withoutLast_of_ne returned]
    cases read : scan pos line with
    | error _ => rfl
    | ok text =>
      have other : text.getLast? ≠ some '\r' := by
        intro last
        obtain ⟨b, ends, value⟩ := spelling.getLast_of_scan read last (by decide)
        obtain rfl : b = 0x0D := UInt8.toNat_inj.mp value
        exact returned ends
      exact congrArg Except.ok (withoutLast_of_ne other).symm

theorem unbroken_of_scan (spelling : Spelling spells scan) {pos : Nat} {line : List UInt8} {text : List Char}
    (read : scan pos line = .ok text) (unbroken : 0x0A ∉ line) : '\n' ∉ text := by
  intro member
  obtain ⟨b, inside, value⟩ := spelling.exists_byte read member (by decide)
  obtain rfl : b = 0x0A := UInt8.toNat_inj.mp value
  exact unbroken inside

/-- A content with a line break is read as its first line and then the rest. -/
theorem scan_break (spelling : Spelling spells scan) (line rest : List UInt8) :
    scan 0 (line ++ 0x0A :: rest) = do
      let first ← scan 0 line
      let others ← (scan 0 rest).mapError (· + (line.length + 1))
      return first ++ '\n' :: others := by
  have place : scan (0 + line.length + 1) rest = (scan 0 rest).mapError (· + (line.length + 1)) := by
    rw [Nat.add_assoc, spelling.scan_shift]
  rw [spelling.scan_split 0 line (by decide) rest, place]
  rfl

theorem scan_break_ok (spelling : Spelling spells scan) {line rest : List UInt8} {text : List Char}
    (read : scan 0 (line ++ 0x0A :: rest) = .ok text) :
    ∃ first others, scan 0 line = .ok first ∧ scan 0 rest = .ok others ∧ text = first ++ '\n' :: others := by
  rw [spelling.scan_break] at read
  cases early : scan 0 line with
  | error _ => rw [early] at read; cases read
  | ok first =>
    cases late : scan 0 rest with
    | error _ => rw [early, late] at read; cases read
    | ok others => rw [early, late] at read; cases read; exact ⟨first, others, rfl, rfl, rfl⟩

/-- A flaw is in the first line, or it is one of the rest and that much further on. -/
theorem scan_break_error (spelling : Spelling spells scan) {line rest : List UInt8} {place : Nat}
    (refused : scan 0 (line ++ 0x0A :: rest) = .error place) :
    scan 0 line = .error place ∨
      ∃ first later, scan 0 line = .ok first ∧ scan 0 rest = .error later ∧ place = line.length + 1 + later := by
  rw [spelling.scan_break] at refused
  cases early : scan 0 line with
  | error _ => rw [early] at refused; cases refused; exact .inl rfl
  | ok first =>
    cases late : scan 0 rest with
    | error later =>
      rw [early, late] at refused
      cases refused
      exact .inr ⟨first, later, rfl, rfl, Nat.add_comm _ _⟩
    | ok others => rw [early, late] at refused; cases refused

end Text.Spelling

namespace Encoding

variable {name : String} {codec : Text.Codec}

theorem decode_of_scan (known : find name = .ok (.text codec)) {bytes : List UInt8} {text : List Char}
    (read : codec.scan bytes = .ok text) : decode name bytes = .ok (String.ofList text) := by
  rw [decode_of_find known]
  unfold Text.Codec.scan at read
  cases decoded : codec.decode bytes with
  | error cause => rw [decoded] at read; cases read
  | ok chars => rw [decoded] at read; cases read; rfl

theorem decode_of_scan_error (known : find name = .ok (.text codec)) {bytes : List UInt8} {place : Nat}
    (refused : codec.scan bytes = .error place) :
    ∃ cause, decode name bytes = .error (.undecodable cause) ∧ cause.flaw.start = place := by
  rw [decode_of_find known]
  unfold Text.Codec.scan at refused
  cases decoded : codec.decode bytes with
  | error cause => rw [decoded] at refused; cases refused; exact ⟨cause, rfl, rfl⟩
  | ok chars => rw [decoded] at refused; cases refused

end Encoding

namespace LineReader

open Text (Spelling withoutLast)

section

variable {spells : List UInt8 → Char → Prop} {scan : Nat → List UInt8 → Except Nat (List Char)}
variable {name : String} {codec : Text.Codec}
variable (spelling : Spelling spells scan) (same : ∀ bytes, codec.scan bytes = scan 0 bytes)
  (known : Encoding.find name = .ok (.text codec)) (path : String) (calls : List HandleCall)

include same known

/-- A line that cannot be read stops the listing, and its number is that of the failure. -/
theorem listFrom_flawed (number fuel : Nat) {piece : List UInt8} (pieces : List (List UInt8)) {place : Nat}
    (filled : piece ≠ []) (refused : scan 0 (stripLineBreak piece) = .error place) :
    ∃ cause source, Encoding.decode name (stripLineBreak piece) = .error cause ∧
      listFrom (fuel + 1) (atWork path name number (piece :: pieces) calls) =
        ⟨[], some (.failed (.reading path (some (number + 1 : Nat))) (some cause)), source⟩ := by
  obtain ⟨refusal, decoded, -⟩ := Encoding.decode_of_scan_error known ((same _).trans refused)
  obtain ⟨source, failed⟩ := listFrom_atWork_undecodable path number pieces calls fuel filled decoded rfl
  exact ⟨_, source, decoded, failed⟩

include spelling

/-- The first line of a content, with its break, is listed as the first line of its text. -/
theorem listFrom_break (number fuel : Nat) {line rest : List UInt8} {first : List Char} (unbroken : 0x0A ∉ line)
    (read : scan 0 line = .ok first) :
    listFrom (fuel + 1) (atWork path name number (Handle.chunks (line ++ 0x0A :: rest)) calls) =
      let listing := listFrom fuel (atWork path name (number + 1) (Handle.chunks rest) (.read :: calls))
      { listing with lines := String.ofList (withoutLast '\r' first) :: listing.lines } := by
  have stripped : codec.scan (stripLineBreak (line ++ [0x0A])) = .ok (withoutLast '\r' first) := by
    rw [stripLineBreak_break, same, spelling.scan_withoutLast, read]
    rfl
  rw [Handle.chunks_break unbroken]
  exact listFrom_atWork_line path number _ calls fuel (by simp) (Encoding.decode_of_scan known stripped)

/-- A source over a content that is a text lists the lines of that text. -/
theorem listFrom_of_scan {content : List UInt8} {text : List Char} (read : scan 0 content = .ok text)
    (number fuel : Nat) (enough : (Handle.chunks content).length ≤ fuel) :
    let listing := listFrom (fuel + 1) (atWork path name number (Handle.chunks content) calls)
    listing.lines = (Text.lines text).map String.ofList ∧ listing.stop = none := by
  induction content using Text.cut_induction (0x0A : UInt8) generalizing text number fuel calls with
  | empty =>
    obtain rfl : text = [] := by rw [spelling.empty] at read; cases read; rfl
    obtain ⟨source, ended⟩ := listFrom_atWork_end path number calls fuel name
    simp [Handle.chunks, ended, Text.lines]
  | last content unbroken filled =>
    have decoded : Encoding.decode name (stripLineBreak content) = .ok (String.ofList text) := by
      rw [stripLineBreak_unbroken unbroken]
      exact Encoding.decode_of_scan known ((same content).trans read)
    have some : text ≠ [] := fun none => filled (spelling.eq_nil_of_scan_nil (none ▸ read))
    rw [Handle.chunks_unbroken unbroken filled] at enough ⊢
    obtain ⟨fuel, rfl⟩ := Nat.exists_eq_add_of_le' enough
    obtain ⟨source, ended⟩ := listFrom_atWork_end path (number + 1) (.read :: calls) fuel name
    rw [listFrom_atWork_line path number [] calls _ filled decoded, List.length_singleton, ended]
    simp [Text.lines, Text.cutLines_unbroken '\r' (spelling.unbroken_of_scan read unbroken) some]
  | next line rest unbroken ih =>
    obtain ⟨first, others, early, late, rfl⟩ := spelling.scan_break_ok read
    rw [Handle.chunks_break unbroken, List.length_cons] at enough
    obtain ⟨fuel, rfl⟩ := Nat.exists_eq_add_of_le' (Nat.le_of_add_left_le enough)
    obtain ⟨listed, stopped⟩ := ih (.read :: calls) late (number + 1) fuel (by omega)
    rw [listFrom_break spelling same known path calls number _ unbroken early]
    refine ⟨?_, stopped⟩
    rw [Text.lines, Text.cutLines_break '\r' (spelling.unbroken_of_scan early unbroken)]
    exact congrArg _ listed

/-- A source over a content with a flaw lists the lines that ended before it, and stops at the line it is in. -/
theorem listFrom_of_flaw {content : List UInt8} {place : Nat} (refused : scan 0 content = .error place)
    (number fuel : Nat) (enough : (Handle.chunks content).length ≤ fuel) :
    let listing := listFrom (fuel + 1) (atWork path name number (Handle.chunks content) calls)
    let breaks := (content.take place).count 0x0A
    ∃ text raw cause, scan 0 (Text.endedLines 0x0A (content.take place)) = .ok text ∧
      listing.lines = (Text.lines text).map String.ofList ∧
      (Text.byteLines content)[breaks]? = some raw ∧ Encoding.decode name raw = .error cause ∧
      listing.stop = some (.failed (.reading path (some (number + breaks + 1 : Nat))) (some cause)) := by
  induction content using Text.cut_induction (0x0A : UInt8) generalizing place number fuel calls with
  | empty =>
    rw [spelling.empty] at refused
    cases refused
  | last content unbroken filled =>
    have before : 0x0A ∉ content.take place := fun member => unbroken (List.mem_of_mem_take member)
    have stripped : scan 0 (stripLineBreak content) = .error place := by
      rw [stripLineBreak_unbroken unbroken, refused]
    obtain ⟨cause, source, decoded, failed⟩ :=
      listFrom_flawed same known path calls number fuel [] filled stripped
    refine ⟨[], content, cause, ?_⟩
    rw [stripLineBreak_unbroken unbroken] at decoded
    rw [Handle.chunks_unbroken unbroken filled, failed, Text.endedLines_unbroken before, spelling.empty,
      List.count_eq_zero.mpr before, Text.byteLines, Text.cutLines_unbroken _ unbroken filled]
    exact ⟨rfl, rfl, rfl, decoded, rfl⟩
  | next line rest unbroken ih =>
    rw [Handle.chunks_break unbroken, List.length_cons] at enough
    rcases spelling.scan_break_error refused with early | ⟨first, later, early, late, rfl⟩
    · -- The flaw is in the first line, so no line has ended before it.
      have inside : place ≤ line.length := by have := spelling.flaw_inside early; omega
      have before : 0x0A ∉ (line ++ 0x0A :: rest).take place := by
        rw [List.take_append_of_le_length inside]
        exact fun member => unbroken (List.mem_of_mem_take member)
      have stripped : scan 0 (stripLineBreak (line ++ [0x0A])) = .error place := by
        rw [stripLineBreak_break, spelling.scan_withoutLast, early]
        rfl
      obtain ⟨cause, source, decoded, failed⟩ :=
        listFrom_flawed same known path calls number fuel (Handle.chunks rest) (by simp) stripped
      refine ⟨[], withoutLast 0x0D line, cause, ?_⟩
      rw [stripLineBreak_break] at decoded
      rw [Handle.chunks_break unbroken, failed, Text.endedLines_unbroken before, spelling.empty,
        List.count_eq_zero.mpr before, Text.byteLines, Text.cutLines_break _ unbroken]
      exact ⟨rfl, rfl, rfl, decoded, rfl⟩
    · obtain ⟨fuel, rfl⟩ := Nat.exists_eq_add_of_le' (Nat.le_of_add_left_le enough)
      obtain ⟨text, raw, cause, read, listed, flawed, decoded, stopped⟩ :=
        ih (.read :: calls) late (number + 1) fuel (by omega)
      have taken : (line ++ 0x0A :: rest).take (line.length + 1 + later) = line ++ 0x0A :: rest.take later := by
        rw [Nat.add_assoc, List.take_length_add_append, Nat.add_comm, List.take_succ_cons]
      have counted : (line ++ 0x0A :: rest.take later).count 0x0A = (rest.take later).count 0x0A + 1 := by
        simp [List.count_eq_zero.mpr unbroken]
      rw [listFrom_break spelling same known path calls number _ unbroken early, taken, counted,
        Text.endedLines_break, spelling.scan_break, early, read]
      refine ⟨first ++ '\n' :: text, raw, cause, rfl, ?_, ?_, decoded, ?_⟩
      · rw [Text.lines, Text.cutLines_break '\r' (spelling.unbroken_of_scan early unbroken)]
        exact congrArg _ listed
      · rw [Text.byteLines, Text.cutLines_break _ unbroken]
        exact flawed
      · have further : number + 1 + (rest.take later).count 0x0A + 1 =
            number + ((rest.take later).count 0x0A + 1) + 1 := by omega
        rw [← further]
        exact stopped

end

/-- Listing the lines of a content agrees with reading all of it and cutting the text. Where it cannot be read,
the lines that ended before the first flaw are listed, and the failure has the number of the line after them. -/
theorem list_agrees_with_text (path : String) {name : String} {codec : Text.Codec}
    (known : Encoding.find name = .ok (.text codec)) (plain : codec ∈ Text.Codec.plain) (content : List UInt8) :
    let listing := (ofHandle path name (.ofBytes content)).list
    match Encoding.decode name content with
    | .ok text => listing.lines = (Text.lines text.toList).map String.ofList ∧ listing.stop = none
    | .error fault =>
      ∃ refusal text raw cause, fault = .undecodable refusal ∧ refusal.flaw.start < content.length ∧
        let before := content.take refusal.flaw.start
        let breaks := before.count 0x0A
        Encoding.decode name (Text.endedLines 0x0A before) = .ok text ∧
        listing.lines = (Text.lines text.toList).map String.ofList ∧
        (Text.byteLines content)[breaks]? = some raw ∧ Encoding.decode name raw = .error cause ∧
        listing.stop = some (.failed (.reading path (some (1 + breaks : Nat))) (some cause)) := by
  obtain ⟨spells, scan, spelling, same⟩ := Text.Codec.exists_spelling plain
  have enough : (Handle.chunks content).length ≤ (Handle.chunks content).length := le_refl _
  have list_eq : (ofHandle path name (.ofBytes content)).list =
      listFrom ((Handle.chunks content).length + 1) (atWork path name 0 (Handle.chunks content) []) := by
    simp [list, ofHandle_ofBytes, atWork]
  cases read : scan 0 content with
  | ok text =>
    have decoded := Encoding.decode_of_scan known ((same content).trans read)
    obtain ⟨listed, stopped⟩ := listFrom_of_scan spelling same known path [] read 0 _ enough
    rw [decoded, list_eq]
    exact ⟨by rw [String.toList_ofList]; exact listed, stopped⟩
  | error place =>
    obtain ⟨refusal, decoded, rfl⟩ := Encoding.decode_of_scan_error known ((same content).trans read)
    obtain ⟨text, raw, cause, ended, listed, flawed, refused, stopped⟩ :=
      listFrom_of_flaw spelling same known path [] read 0 _ enough
    have inside := (spelling.flaw_inside read).2
    rw [decoded, list_eq]
    refine ⟨refusal, String.ofList text, raw, cause, rfl, by omega, ?_, ?_, flawed, refused, ?_⟩
    · exact Encoding.decode_of_scan known ((same _).trans ended)
    · rw [String.toList_ofList]
      exact listed
    · rw [Nat.add_comm 1, ← Nat.zero_add (List.count _ _)]
      exact stopped

/-- The third line of `é`, `ab` and a lone lead byte is no text, though the line break after it is. -/
theorem list_stops_at_lone_lead :
    let content : List UInt8 := [0xC3, 0xA9, 0x0D, 0x0A, 0x61, 0x62, 0x0A, 0xC3, 0x0A, 0x7A]
    let listing := (ofHandle "f" "utf-8" (.ofBytes content)).list
    Encoding.find "utf-8" = .ok (.text .utf8) ∧ Text.Codec.utf8 ∈ Text.Codec.plain ∧ listing.lines = ["é", "ab"] ∧
      ∃ cause, listing.stop = some (.failed (.reading "f" (some 3)) (some cause)) := by
  intro content listing
  have plain : Text.Codec.utf8 ∈ Text.Codec.plain := by simp [Text.Codec.plain]
  have refused : ∃ reason, Encoding.decode "utf-8" content =
      .error (.undecodable ⟨"utf-8", content, ⟨7, 8, reason⟩⟩) := by
    rw [Encoding.decode_of_find Encoding.find_utf8]
    exact ⟨_, rfl⟩
  have ended : Encoding.decode "utf-8" (Text.endedLines 0x0A (content.take 7)) = .ok "é\r\nab\n" := by
    rw [Encoding.decode_of_find Encoding.find_utf8]
    rfl
  have agrees := list_agrees_with_text "f" Encoding.find_utf8 plain content
  obtain ⟨reason, refused⟩ := refused
  rw [refused] at agrees
  obtain ⟨refusal, text, _, cause, same, -, read, listed, -, -, stopped⟩ := agrees
  obtain rfl := Fault.undecodable.inj same
  obtain rfl : text = "é\r\nab\n" := Except.ok.inj (read.symm.trans ended)
  exact ⟨Encoding.find_utf8, plain, listed.trans (by decide +kernel), cause, stopped⟩

end LineReader

end Linewise
