import Linewise.Encoding
import Linewise.FileTree

/-! A source of lines over a file handle. The handle gives the bytes of one line at a time; the source
strips the line break, reads the text and counts. The end and a failure to read are final: the handle is
released and every later call has the same answer. -/
namespace Linewise

inductive HandleCall
  | read
  | close
  deriving DecidableEq, Repr

/-- A handle's remaining answers; after the last it has no more bytes. Every call made on it is kept, the
latest first. -/
structure Handle where
  script : List (Except Fault (List UInt8))
  calls : List HandleCall

namespace Handle

def ofScript (script : List (Except Fault (List UInt8))) : Handle := ⟨script, []⟩

def read (handle : Handle) : Except Fault (List UInt8) × Handle :=
  match handle.script with
  | [] => (.ok [], { handle with calls := .read :: handle.calls })
  | answer :: script => (answer, ⟨script, .read :: handle.calls⟩)

def close (handle : Handle) : Handle := { handle with calls := .close :: handle.calls }

/-- How often the handle was closed. -/
def closes (handle : Handle) : Nat := handle.calls.count .close

/-- Bytes cut after every line break. -/
def chunks : List UInt8 → List (List UInt8)
  | [] => []
  | b :: rest =>
    if b = 0x0A then [b] :: chunks rest
    else
      match chunks rest with
      | [] => [[b]]
      | chunk :: more => (b :: chunk) :: more

/-- Cutting loses nothing. -/
@[simp] theorem flatten_chunks (bytes : List UInt8) : (chunks bytes).flatten = bytes := by
  induction bytes with
  | nil => rfl
  | cons b rest ih =>
    by_cases atBreak : b = 0x0A
    · simp [chunks, atBreak, ih]
    · simp only [chunks, atBreak, if_false]
      cases cut : chunks rest with
      | nil => simp_all
      | cons chunk more => simpa [cut] using ih

theorem ne_nil_of_mem_chunks {bytes chunk : List UInt8} (member : chunk ∈ chunks bytes) : chunk ≠ [] := by
  induction bytes generalizing chunk with
  | nil => simp [chunks] at member
  | cons b rest ih =>
    by_cases atBreak : b = 0x0A
    · simp only [chunks, atBreak, if_true, List.mem_cons] at member
      rcases member with rfl | member
      · simp
      · exact ih member
    · simp only [chunks, atBreak, if_false] at member
      cases cut : chunks rest with
      | nil => simp_all
      | cons first more =>
        simp only [cut, List.mem_cons] at member
        rcases member with rfl | member
        · simp
        · exact ih (by simp [cut, member])

def ofBytes (bytes : List UInt8) : Handle := ofScript ((chunks bytes).map .ok)

end Handle

/-- A failure that ended a source, with its number among those the source has made: raised again it is still
the same one, and another that reads alike has another number. -/
structure Breakdown where
  number : Nat
  failure : Failure
  deriving Repr

def Breakdown.toFault (breakdown : Breakdown) : Fault := breakdown.failure.toFault

structure LineReader where
  path : String
  encoding : String
  handle : Handle
  isOpen : Bool
  line : Nat
  finished : Bool
  failure : Option Breakdown
  /-- How many failures the source has made. -/
  made : Nat

namespace LineReader

/-- A line without its final line break, and without a carriage return right before that. -/
def stripLineBreak (raw : List UInt8) : List UInt8 :=
  if raw.getLast? = some 0x0A then
    let line := raw.dropLast
    if line.getLast? = some 0x0D then line.dropLast else line
  else raw

def ofHandle (path encoding : String) (handle : Handle) : LineReader where
  path := path
  encoding := encoding
  handle := handle
  isOpen := true
  line := 0
  finished := false
  failure := none
  made := 0

/-- Opens a file. What the system refuses is a failed opening. -/
def openFile (tree : FileTree) (path encoding : String) : Except Fault LineReader :=
  match tree.read path with
  | .ok bytes => .ok (ofHandle path encoding (.ofBytes bytes))
  | .error fault =>
    if fault.isA .system then .error (.failed (.opening path) (some fault)) else .error fault

def close (source : LineReader) : LineReader :=
  if source.isOpen then { source with handle := source.handle.close, isOpen := false } else source

@[simp] theorem isOpen_close (source : LineReader) : source.close.isOpen = false := by
  cases opened : source.isOpen <;> simp [close, opened]

theorem close_of_closed (source : LineReader) (closed : source.isOpen = false) : source.close = source := by
  simp [close, closed]

/-- The answer to a call: a line, the end, the failure that ended the source, or a fault that did not. -/
inductive Reply
  | line (text : String)
  | ended
  | failed (failure : Breakdown)
  | fault (fault : Fault)
  deriving Repr

/-- Ends the source with a failure at a line. -/
def fail (source : LineReader) (line : Nat) (cause : Fault) : Reply × LineReader :=
  let failure : Breakdown := ⟨source.made, .reading source.path (some line), some cause⟩
  (.failed failure, { source with line, failure := some failure, made := source.made + 1 }.close)

/-- Takes in the bytes of one line. -/
def receive (source : LineReader) (raw : List UInt8) : Reply × LineReader :=
  if raw = [] then (.ended, { source with finished := true }.close)
  else
    let source := { source with line := source.line + 1 }
    match Encoding.decode source.encoding (stripLineBreak raw) with
    | .ok text => (.line text, source)
    | .error fault => if fault.isA .undecodable then source.fail source.line fault else (.fault fault, source)

def next (source : LineReader) : Reply × LineReader :=
  match source.failure with
  | some failure => (.failed failure, source)
  | none =>
    if source.finished || !source.isOpen then (.ended, source)
    else
      let (answer, handle) := source.handle.read
      let source := { source with handle }
      match answer with
      | .ok raw => source.receive raw
      | .error fault =>
        if fault.isA .system then source.fail (source.line + 1) fault else (.fault fault, source)

/-- All lines up to the end or to the fault that stopped them. -/
structure Listing where
  lines : List String
  stop : Option Fault
  source : LineReader

def listFrom : (fuel : Nat) → LineReader → Listing
  | 0, source => ⟨[], none, source⟩
  | fuel + 1, source =>
    match source.next with
    | (.line text, source) =>
      let listing := listFrom fuel source
      { listing with lines := text :: listing.lines }
    | (.ended, source) => ⟨[], none, source⟩
    | (.failed failure, source) => ⟨[], some failure.toFault, source⟩
    | (.fault fault, source) => ⟨[], some fault, source⟩

/-- Every line uses up one of the handle's answers, which bounds the calls. -/
def list (source : LineReader) : Listing := listFrom (source.handle.script.length + 1) source

/-- Lists the lines and closes the source, whatever happened. -/
def listAndClose (source : LineReader) : Listing :=
  let listing := source.list
  { listing with source := listing.source.close }

/-- An iterator over a source is spent once it has seen the end or a fault. -/
structure Iterator where
  spent : Bool

def Iterator.start : Iterator := ⟨false⟩

def Iterator.advance (iterator : Iterator) (source : LineReader) : Reply × Iterator × LineReader :=
  if iterator.spent then (.ended, iterator, source)
  else
    match source.next with
    | (.line text, source) => (.line text, iterator, source)
    | (reply, source) => (reply, ⟨true⟩, source)

end LineReader

end Linewise
