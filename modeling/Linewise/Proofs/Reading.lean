import Linewise.Proofs.Cutting
import Linewise.Proofs.Decoding

/-! One call on a source that still has pieces of a content before it, and from that the whole listing. -/
namespace Linewise.LineReader

/-- A source at work: these pieces are still to come, and nothing has ended it. -/
def atWork (path encoding : String) (line : Nat) (pieces : List (List UInt8)) (calls : List HandleCall) :
    LineReader where
  path := path
  encoding := encoding
  handle := ⟨pieces.map .ok, calls⟩
  isOpen := true
  line := line
  finished := false
  failure := none
  made := 0

theorem ofHandle_ofBytes (path encoding : String) (content : List UInt8) :
    ofHandle path encoding (.ofBytes content) = atWork path encoding 0 (Handle.chunks content) [] :=
  rfl

section

variable (path : String) {encoding : String} (line : Nat) {raw : List UInt8} (rest : List (List UInt8))
  (calls : List HandleCall)

theorem next_atWork_line {text : String} (filled : raw ≠ [])
    (decoded : Encoding.decode encoding (stripLineBreak raw) = .ok text) :
    (atWork path encoding line (raw :: rest) calls).next =
      (.line text, atWork path encoding (line + 1) rest (.read :: calls)) := by
  simp [next, atWork, Handle.read, receive, filled, decoded]

theorem next_atWork_undecodable {fault : Fault} (filled : raw ≠ [])
    (refused : Encoding.decode encoding (stripLineBreak raw) = .error fault)
    (kind : fault.isA .undecodable = true) :
    ∃ source, (atWork path encoding line (raw :: rest) calls).next =
      (.failed ⟨0, .reading path (some (line + 1 : Nat)), some fault⟩, source) := by
  simp [next, atWork, Handle.read, receive, filled, refused, kind, fail]

theorem next_atWork_end (encoding : String) :
    ∃ source, (atWork path encoding line [] calls).next = (.ended, source) := by
  simp [next, atWork, Handle.read, receive]

theorem listFrom_atWork_line {text : String} (fuel : Nat) (filled : raw ≠ [])
    (decoded : Encoding.decode encoding (stripLineBreak raw) = .ok text) :
    listFrom (fuel + 1) (atWork path encoding line (raw :: rest) calls) =
      let listing := listFrom fuel (atWork path encoding (line + 1) rest (.read :: calls))
      { listing with lines := text :: listing.lines } := by
  rw [listFrom, next_atWork_line path line rest calls filled decoded]

theorem listFrom_atWork_undecodable {fault : Fault} (fuel : Nat) (filled : raw ≠ [])
    (refused : Encoding.decode encoding (stripLineBreak raw) = .error fault)
    (kind : fault.isA .undecodable = true) :
    ∃ source, listFrom (fuel + 1) (atWork path encoding line (raw :: rest) calls) =
      ⟨[], some (.failed (.reading path (some (line + 1 : Nat))) (some fault)), source⟩ := by
  obtain ⟨source, failed⟩ := next_atWork_undecodable path line rest calls filled refused kind
  exact ⟨source, by rw [listFrom, failed]; rfl⟩

theorem listFrom_atWork_end (fuel : Nat) (encoding : String) :
    ∃ source, listFrom (fuel + 1) (atWork path encoding line [] calls) = ⟨[], none, source⟩ := by
  obtain ⟨source, ended⟩ := next_atWork_end path line calls encoding
  exact ⟨source, by rw [listFrom, ended]⟩

end

end Linewise.LineReader
