import Linewise.LineReader
import Mathlib.Data.List.DropRight

/-! Lines of a text, said without reading it: the text is cut at every line feed and nowhere else. The same rule
serves bytes and characters. A content handed out piece by piece, each piece stripped of its line break, gives
exactly the lines of the whole. -/
namespace Linewise.Text

variable {α : Type} [DecidableEq α]

/-- A line without the mark at its end, if it has one there. -/
def withoutLast (mark : α) (line : List α) : List α :=
  if line.getLast? = some mark then line.dropLast else line

/-- A text cut at each `feed`. A `back` right before a `feed` goes with it; what follows the last `feed` is a
line only if it is not empty, and is left as it is. -/
def cutLines (feed back : α) (text : List α) : List (List α) :=
  let pieces := text.splitOn feed
  pieces.dropLast.map (withoutLast back) ++ pieces.getLast?.toList.filter (· ≠ [])

/-- The lines of a byte text, still in bytes. -/
def byteLines (content : List UInt8) : List (List UInt8) := cutLines 0x0A 0x0D content

/-- The lines of a text. No other separator cuts, and a carriage return by itself stays. -/
def lines (text : List Char) : List (List Char) := cutLines '\n' '\r' text

/-- A text up to its last `feed`: the lines that have ended. -/
def endedLines (feed : α) (text : List α) : List α := text.rdropWhile (· ≠ feed)

@[simp] theorem withoutLast_concat (mark : α) (line : List α) : withoutLast mark (line ++ [mark]) = line := by
  simp [withoutLast]

theorem withoutLast_of_ne {mark : α} {line : List α} (other : line.getLast? ≠ some mark) :
    withoutLast mark line = line := by
  simp [withoutLast, other]

@[simp] theorem cutLines_nil (feed back : α) : cutLines feed back [] = [] := by simp [cutLines]

theorem cutLines_unbroken {feed : α} (back : α) {line : List α} (unbroken : feed ∉ line) (filled : line ≠ []) :
    cutLines feed back line = [line] := by
  simp [cutLines, List.splitOn_eq_singleton unbroken, filled]

theorem cutLines_break {feed : α} (back : α) {line : List α} (unbroken : feed ∉ line) (rest : List α) :
    cutLines feed back (line ++ feed :: rest) = withoutLast back line :: cutLines feed back rest := by
  have pieces : rest.splitOn feed ≠ [] := List.splitOn_ne_nil feed rest
  simp only [cutLines, List.splitOn_append_cons_self_of_not_mem unbroken]
  rw [List.dropLast_cons_of_ne_nil pieces, List.getLast?_cons_of_ne_nil pieces]
  rfl

theorem endedLines_unbroken {feed : α} {line : List α} (unbroken : feed ∉ line) : endedLines feed line = [] := by
  rw [endedLines, List.rdropWhile_eq_nil_iff]
  intro other member
  simpa using fun same : other = feed => unbroken (same ▸ member)

theorem endedLines_break (feed : α) (line rest : List α) :
    endedLines feed (line ++ feed :: rest) = line ++ feed :: endedLines feed rest := by
  simp only [endedLines, List.rdropWhile, List.reverse_append, List.reverse_cons, List.append_assoc]
  rw [List.dropWhile_append]
  cases ended : rest.reverse.dropWhile (· ≠ feed) with
  | nil => simp
  | cons last others => simp

/-- Every text is empty, one line without a break, or a line with its break and a text after it. -/
theorem cut_induction (feed : α) {motive : List α → Prop} (empty : motive [])
    (last : ∀ line, feed ∉ line → line ≠ [] → motive line)
    (next : ∀ line rest, feed ∉ line → motive rest → motive (line ++ feed :: rest)) (text : List α) :
    motive text := by
  induction size : text.length using Nat.strongRecOn generalizing text with
  | _ _ ih =>
    by_cases broken : feed ∈ text
    · obtain ⟨line, rest, rfl, unbroken⟩ := List.eq_append_cons_of_mem broken
      have shorter : rest.length < (line ++ feed :: rest).length := by simp; omega
      exact next line rest unbroken (ih _ (size ▸ shorter) rest rfl)
    · by_cases filled : text = []
      · exact filled ▸ empty
      · exact last text broken filled

end Linewise.Text

namespace Linewise

open Text (withoutLast byteLines)

theorem Handle.chunks_unbroken {line : List UInt8} (unbroken : 0x0A ∉ line) (filled : line ≠ []) :
    Handle.chunks line = [line] := by
  induction line with
  | nil => exact absurd rfl filled
  | cons b line ih =>
    simp only [List.mem_cons, not_or] at unbroken
    cases line with
    | nil => simp [Handle.chunks, Ne.symm unbroken.1]
    | cons c line => rw [Handle.chunks, if_neg (Ne.symm unbroken.1), ih unbroken.2 (by simp)]

theorem Handle.chunks_break {line : List UInt8} (unbroken : 0x0A ∉ line) (rest : List UInt8) :
    Handle.chunks (line ++ 0x0A :: rest) = (line ++ [0x0A]) :: Handle.chunks rest := by
  induction line with
  | nil => simp [Handle.chunks]
  | cons b line ih =>
    simp only [List.mem_cons, not_or] at unbroken
    rw [List.cons_append, Handle.chunks, if_neg (Ne.symm unbroken.1), ih unbroken.2]
    rfl

namespace LineReader

theorem stripLineBreak_break (line : List UInt8) :
    stripLineBreak (line ++ [0x0A]) = withoutLast 0x0D line := by
  simp [stripLineBreak, withoutLast]

theorem stripLineBreak_unbroken {line : List UInt8} (unbroken : 0x0A ∉ line) : stripLineBreak line = line := by
  have other : line.getLast? ≠ some 0x0A := fun last => unbroken (List.mem_of_getLast? last)
  simp [stripLineBreak, other]

/-- Cut into pieces and stripped one by one, a content comes to its lines. -/
theorem map_stripLineBreak_chunks (content : List UInt8) :
    (Handle.chunks content).map stripLineBreak = byteLines content := by
  induction content using Text.cut_induction (0x0A : UInt8) with
  | empty => rfl
  | last line unbroken filled =>
    rw [Handle.chunks_unbroken unbroken filled, byteLines, Text.cutLines_unbroken _ unbroken filled]
    simp [stripLineBreak_unbroken unbroken]
  | next line rest unbroken ih =>
    rw [Handle.chunks_break unbroken, byteLines, Text.cutLines_break _ unbroken, ← byteLines, ← ih]
    simp [stripLineBreak_break]

end LineReader

end Linewise
