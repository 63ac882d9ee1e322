import Linewise.LineReader

/-! The lines of a file, opened when the first one is asked for and read a block at a time. What a block held
is given out even if the file has changed since; what follows it is read from the file as it is then. -/
namespace Linewise

/-- Bytes read from a file and not given out yet, and how far the file has been read. -/
structure Window where
  offset : Nat
  bytes : List UInt8

namespace Window

def start : Window := ⟨0, []⟩

def blockSize : Nat := 4096

/-- The next block of a file with this content; it is empty at the end. -/
def block (window : Window) (content : List UInt8) : List UInt8 := (content.drop window.offset).take blockSize

/-- The window after a block was read and all before it given out. -/
def move (window : Window) (block : List UInt8) : Window := ⟨window.offset + block.length, block⟩

theorem offset_lt_of_block {window : Window} {content : List UInt8} (more : window.block content ≠ []) :
    window.offset < content.length := by
  by_cases inside : window.offset < content.length
  · exact inside
  · exact absurd (by simp [block, List.drop_eq_nil_of_le (Nat.le_of_not_lt inside)]) more

/-- The first line, line break included, and what follows it. -/
def firstLine? : List UInt8 → Option (List UInt8 × List UInt8)
  | [] => none
  | b :: rest =>
    if b = 0x0A then some ([b], rest) else (firstLine? rest).map fun (line, after) => (b :: line, after)

/-- Takes the bytes of one line, or those that are left. -/
def takeLine (content : List UInt8) (window : Window) : List UInt8 × Window :=
  match firstLine? window.bytes with
  | some (line, rest) => (line, { window with bytes := rest })
  | none =>
    if more : window.block content = [] then (window.bytes, { window with bytes := [] })
    else
      have _inside := offset_lt_of_block more
      have _filled : 0 < (window.block content).length := List.length_pos_iff.mpr more
      let (line, after) := takeLine content (window.move (window.block content))
      (window.bytes ++ line, after)
termination_by content.length - window.offset
decreasing_by
  simp only [move]
  omega

/-- All bytes to come from a file that does not change. -/
def ahead (window : Window) (content : List UInt8) : List UInt8 := window.bytes ++ content.drop window.offset

theorem drop_of_block_nil {window : Window} {content : List UInt8} (ended : window.block content = []) :
    content.drop window.offset = [] := by
  cases left : content.drop window.offset with
  | nil => rfl
  | cons b rest => simp [block, left, blockSize] at ended

/-- Reading a block neither loses nor adds any. -/
theorem bytes_append_ahead_move (window : Window) (content : List UInt8) :
    window.bytes ++ (window.move (window.block content)).ahead content = window.ahead content := by
  simp only [ahead, move, block, List.append_cancel_left_eq]
  rw [← List.drop_drop, List.length_take]
  by_cases short : (content.drop window.offset).length ≤ blockSize
  · rw [Nat.min_eq_right short, List.take_of_length_le short, List.drop_length, List.append_nil]
  · rw [Nat.min_eq_left (Nat.le_of_not_le short), List.take_append_drop]

theorem chunks_of_firstLine {bytes line after : List UInt8} (cut : firstLine? bytes = some (line, after))
    (more : List UInt8) : Handle.chunks (bytes ++ more) = line :: Handle.chunks (after ++ more) := by
  induction bytes generalizing line with
  | nil => simp [firstLine?] at cut
  | cons b bytes ih =>
    by_cases atBreak : b = 0x0A
    · simp only [firstLine?, atBreak, if_true, Option.some.injEq, Prod.mk.injEq] at cut
      simp [Handle.chunks, atBreak, ← cut.1, ← cut.2]
    · simp only [firstLine?, atBreak, if_false, Option.map_eq_some_iff, Prod.mk.injEq] at cut
      obtain ⟨⟨first, rest⟩, found, rfl, rfl⟩ := cut
      simp [Handle.chunks, atBreak, ih found]

/-- Bytes without a line break belong to the line that follows them. -/
theorem chunks_of_no_line {bytes : List UInt8} (unbroken : firstLine? bytes = none) {more line : List UInt8}
    {rest : List (List UInt8)} (cut : Handle.chunks more = line :: rest) :
    Handle.chunks (bytes ++ more) = (bytes ++ line) :: rest := by
  induction bytes with
  | nil => simpa using cut
  | cons b bytes ih =>
    by_cases atBreak : b = 0x0A
    · simp [firstLine?, atBreak] at unbroken
    · simp only [firstLine?, atBreak, if_false, Option.map_eq_none_iff] at unbroken
      simp [Handle.chunks, atBreak, ih unbroken]

theorem chunks_of_last_line {bytes : List UInt8} (unbroken : firstLine? bytes = none) (filled : bytes ≠ []) :
    Handle.chunks bytes = [bytes] := by
  induction bytes with
  | nil => exact absurd rfl filled
  | cons b bytes ih =>
    by_cases atBreak : b = 0x0A
    · simp [firstLine?, atBreak] at unbroken
    · simp only [firstLine?, atBreak, if_false, Option.map_eq_none_iff] at unbroken
      cases bytes with
      | nil => simp [Handle.chunks, atBreak]
      | cons c bytes => rw [Handle.chunks, if_neg atBreak, ih unbroken (by simp)]

theorem ne_nil_of_firstLine {bytes line after : List UInt8} (cut : firstLine? bytes = some (line, after)) :
    line ≠ [] := by
  cases bytes with
  | nil => simp [firstLine?] at cut
  | cons b bytes =>
    by_cases atBreak : b = 0x0A
    · simp only [firstLine?, atBreak, if_true, Option.some.injEq, Prod.mk.injEq] at cut
      simp [← cut.1]
    · simp only [firstLine?, atBreak, if_false, Option.map_eq_some_iff, Prod.mk.injEq] at cut
      obtain ⟨_, _, rfl, _⟩ := cut
      simp

/-- Where there are bytes, a line is taken. -/
theorem takeLine_ne_nil {content : List UInt8} {window : Window} (filled : window.bytes ≠ []) :
    (window.takeLine content).1 ≠ [] := by
  rw [takeLine]
  split
  · next cut => exact ne_nil_of_firstLine cut
  · split
    · exact filled
    · simp [filled]

/-- In a file that does not change, lines are taken as the whole content is cut. -/
theorem chunks_ahead (content : List UInt8) (window : Window) :
    Handle.chunks (window.ahead content) =
      if (window.takeLine content).1 = [] then []
      else (window.takeLine content).1 :: Handle.chunks ((window.takeLine content).2.ahead content) := by
  fun_induction takeLine content window with
  | case1 window line rest cut =>
    simp [ahead, chunks_of_firstLine cut, ne_nil_of_firstLine cut]
  | case2 window unbroken ended =>
    have finished := drop_of_block_nil ended
    by_cases empty : window.bytes = []
    · simp [ahead, finished, empty, Handle.chunks]
    · simp [ahead, finished, empty, chunks_of_last_line unbroken empty, Handle.chunks]
  | case3 window unbroken more inside filled line after taken ih =>
    have given : line ≠ [] := by
      have some := @takeLine_ne_nil content (window.move (window.block content)) more
      simpa [taken] using some
    rw [← bytes_append_ahead_move]
    simp only [taken, given, if_false] at ih
    simp [chunks_of_no_line unbroken ih, given]

end Window

/-- Lines still to come: from a file that is not open yet, or through a window on one that is. -/
inductive LineStream
  | waiting (path encoding : String)
  | running (source : LineReader) (window : Window)
  | spent

namespace LineStream

/-- Opens the file if it has not been opened. -/
def enter (tree : FileTree) : LineStream → Except Fault (Option (LineReader × Window))
  | spent => .ok none
  | running source window => .ok (some (source, window))
  | waiting path encoding => do
    let source ← LineReader.openFile tree path encoding
    return some (source, .start)

def contentOf (tree : FileTree) (source : LineReader) : List UInt8 :=
  match tree.read source.path with
  | .ok bytes => bytes
  | .error _ => []

/-- Gives one line of the file to the source. -/
def step (tree : FileTree) (source : LineReader) (window : Window) : LineReader.Reply × LineReader × Window :=
  let (raw, window) := window.takeLine (contentOf tree source)
  let (reply, source) := { source with handle := { source.handle with script := [.ok raw] } }.next
  (reply, source, window)

/-- Anything but a line ends the stream, which then gives its handle back. -/
def next (tree : FileTree) (stream : LineStream) : LineReader.Reply × LineStream :=
  match stream.enter tree with
  | .error fault => (.fault fault, spent)
  | .ok none => (.ended, spent)
  | .ok (some (source, window)) =>
    match step tree source window with
    | (.line text, source, window) => (.line text, running source window)
    | (reply, _, _) => (reply, spent)

def restFrom (tree : FileTree) : (fuel : Nat) → LineStream → List String × Option Fault
  | 0, _ => ([], none)
  | fuel + 1, stream =>
    match stream.next tree with
    | (.line text, stream) =>
      let (lines, stop) := restFrom tree fuel stream
      (text :: lines, stop)
    | (.ended, _) => ([], none)
    | (.failed failure, _) => ([], some failure.toFault)
    | (.fault fault, _) => ([], some fault)

/-- Bytes that may still be given out, at most. -/
def left (tree : FileTree) : LineStream → Nat
  | spent => 0
  | running source window => window.bytes.length + (contentOf tree source).length
  | waiting path encoding => (contentOf tree (.ofHandle path encoding (.ofScript []))).length

/-- All lines that are left, with the fault that cut them short if one did. Every line takes a byte at
least. -/
def rest (tree : FileTree) (stream : LineStream) : List String × Option Fault :=
  stream.restFrom tree (stream.left tree + 1)

end LineStream

end Linewise
