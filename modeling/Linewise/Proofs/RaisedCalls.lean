import Linewise.Proofs.SharedReading

/-! Calls that raise. A failure of the source itself is final, and a fault of the handle leaves the source where it was.
Only bytes that the encoding refuses for a reason of its own, and not for theirs, are lost: the line is counted and used
up, the source stays open, and the next call goes on after it. -/
namespace Linewise

/-- The pieces of the content that a handle has not given out yet. -/
def Handle.ahead (handle : Handle) : List (List UInt8) := handle.script.filterMap Except.toOption

/-- Bytes are refused in an encoding that nobody knows, whatever they are. -/
theorem Encoding.decode_of_unnamed {name : String} (whole : name.toList.contains '\x00' = false)
    (unnamed : named? name = none) {bytes : List UInt8} (filled : bytes ≠ []) :
    decode name bytes = .error (unknown name) := by
  have unfound : find name = .error (unknown name) := by
    simp only [find, whole, unnamed, Bool.false_eq_true, if_false]
  rw [decode, if_neg (fun empty => filled empty.1), unfound]
  rfl

namespace LineReader

/-- What a call raises, if it raises anything. -/
def Reply.raised? : Reply → Option Fault
  | .failed breakdown => some breakdown.toFault
  | .fault cause => some cause
  | .line _ | .ended => none

/-- An answer of the handle that ends the source: the reading itself fails, or the bytes are no text. -/
inductive Unreadable (encoding : String) : Except Fault (List UInt8) → Fault → Prop
  | unread {cause : Fault} (system : cause.isA .system = true) : Unreadable encoding (.error cause) cause
  | undecoded {raw : List UInt8} {cause : Fault} (filled : raw ≠ [])
      (refused : Encoding.decode encoding (stripLineBreak raw) = .error cause)
      (undecodable : cause.isA .undecodable = true) : Unreadable encoding (.ok raw) cause

/-- The next call uses up these bytes and gives nothing for them: they are refused, but not for what they are. -/
structure Loses (source : LineReader) (raw : List UInt8) (fault : Fault) : Prop where
  opened : source.isOpen = true
  given : source.handle.script.head? = some (.ok raw)
  filled : raw ≠ []
  refused : Encoding.decode source.encoding (stripLineBreak raw) = .error fault
  foreign : fault.isA .undecodable = false

/-- A known text encoding loses nothing. -/
theorem Loses.not_isText {source : LineReader} {raw : List UInt8} {fault : Fault} (loses : Loses source raw fault) :
    ¬ Encoding.IsText source.encoding := by
  intro known
  obtain ⟨cause, rfl⟩ := Encoding.undecodable_of_decode_error known loses.refused
  cases loses.foreign

/-- Everything that makes a call on an open source raise, with the source that it leaves. -/
inductive Raising (source : LineReader) : Reply × LineReader → Prop
  | broken {answer : Except Fault (List UInt8)} {cause : Fault} {breakdown : Breakdown}
      (given : source.handle.script.head? = some answer) (unreadable : Unreadable source.encoding answer cause)
      (failure : breakdown.failure = ⟨.reading source.path (some (source.line + 1 : Nat)), some cause⟩) :
      Raising source (.failed breakdown,
        { source with
          handle := source.handle.read.2
          line := source.line + 1
          failure := some breakdown
          made := source.made + 1 }.close)
  | passed {fault : Fault} (given : source.handle.script.head? = some (.error fault))
      (foreign : fault.isA .system = false) :
      Raising source (.fault fault, { source with handle := source.handle.read.2 })
  | lost {raw : List UInt8} {fault : Fault} (loses : Loses source raw fault) :
      Raising source (.fault fault, { source with handle := source.handle.read.2, line := source.line + 1 })

theorem head?_of_read_error {handle : Handle} {fault : Fault} (read : handle.read.1 = .error fault) :
    handle.script.head? = some (.error fault) := by
  cases script : handle.script with
  | nil => simp [Handle.read, script] at read
  | cons answer rest => simpa [Handle.read, script] using read

theorem head?_of_read {handle : Handle} {raw : List UInt8} (read : handle.read.1 = .ok raw) (filled : raw ≠ []) :
    handle.script.head? = some (.ok raw) := by
  cases script : handle.script with
  | nil => simp [Handle.read, script, Ne.symm filled] at read
  | cons answer rest => simpa [Handle.read, script] using read

theorem raising_next {source : LineReader} (sound : Sound source) (opened : source.isOpen = true) {fault : Fault}
    (raised : source.next.1.raised? = some fault) : Raising source source.next := by
  cases read : source.handle.read.1 with
  | error cause =>
    have given := head?_of_read_error read
    rw [next_of_read_error sound opened read]
    by_cases system : cause.isA .system
    · rw [if_pos system]
      exact .broken given (.unread system) rfl
    · rw [if_neg system]
      exact .passed given (eq_false_of_ne_true system)
  | ok raw =>
    rw [next_of_read sound opened read, receive] at raised ⊢
    by_cases none : raw = []
    · rw [if_pos none] at raised
      cases raised
    rw [if_neg none] at raised ⊢
    have given := head?_of_read read none
    simp only at raised ⊢
    cases decoded : Encoding.decode source.encoding (stripLineBreak raw) with
    | ok text =>
      simp only [decoded] at raised
      cases raised
    | error cause =>
      by_cases undecodable : cause.isA .undecodable
      · simp only [undecodable, if_true]
        exact .broken given (.undecoded none decoded undecodable) rfl
      · simp only [undecodable]
        exact .lost ⟨opened, given, none, decoded, eq_false_of_ne_true undecodable⟩

theorem raising_of_failed {source later : LineReader} (sound : Sound source) (unfailed : source.failure = none)
    {breakdown : Breakdown} (answered : source.next = (.failed breakdown, later)) :
    Raising source (.failed breakdown, later) := by
  cases opened : source.isOpen with
  | false =>
    rw [next_of_closed opened, verdict, unfailed] at answered
    cases answered
  | true =>
    rw [← answered]
    exact raising_next sound opened (congrArg (·.1.raised?) answered)

/-- A source that a call has left as it was, but for an answer of the handle that held no bytes. -/
structure Unmoved (source later : LineReader) : Prop where
  same : later = { source with handle := later.handle }
  ahead : later.handle.ahead = source.handle.ahead

section

variable {source : LineReader}

theorem ahead_read_of_error {handle : Handle} {fault : Fault} (given : handle.script.head? = some (.error fault)) :
    handle.read.2.ahead = handle.ahead := by
  obtain ⟨rest, script⟩ := List.head?_eq_some_iff.mp given
  rw [Handle.ahead, Handle.ahead, script_read, script]
  rfl

theorem ahead_of_ok {handle : Handle} {raw : List UInt8} (given : handle.script.head? = some (.ok raw)) :
    handle.ahead = raw :: handle.read.2.ahead := by
  obtain ⟨rest, script⟩ := List.head?_eq_some_iff.mp given
  simp [Handle.ahead, script_read, script, Except.toOption]

theorem isOpen_of_fault {fault : Fault} (answered : source.next.1 = .fault fault) : source.isOpen = true := by
  cases opened : source.isOpen with
  | true => rfl
  | false =>
    rw [next_of_closed opened, verdict] at answered
    cases failed : source.failure <;> simp [failed] at answered

/-- A fault that loses no line changes nothing. -/
theorem Raising.unmoved {later : LineReader} {fault : Fault} (raising : Raising source (.fault fault, later))
    (kept : ¬ ∃ raw, Loses source raw fault) : Unmoved source later := by
  cases raising with
  | passed given foreign => exact ⟨rfl, ahead_read_of_error given⟩
  | lost loses => exact absurd ⟨_, loses⟩ kept

/-- A line is lost just where the bytes are refused for a reason of the encoding's own. -/
theorem next_of_loses (sound : Sound source) {raw : List UInt8} {fault : Fault} (loses : Loses source raw fault) :
    source.next = (.fault fault, { source with handle := source.handle.read.2, line := source.line + 1 }) := by
  obtain ⟨rest, script⟩ := List.head?_eq_some_iff.mp loses.given
  have read : source.handle.read.1 = .ok raw := by simp [Handle.read, script]
  rw [next_of_read sound loses.opened read, receive, if_neg loses.filled]
  simp only [loses.refused, loses.foreign, Bool.false_eq_true, if_false]

end

namespace Usage

/-- A source that has failed for good: it is closed, and whatever is done with it, every call raises this very
failure. -/
structure Broken (usage : Usage) (breakdown : Breakdown) : Prop where
  closed : usage.source.isOpen = false
  stays : ∀ later operation answer, ((usage.run later).step operation).1 = some answer → answer = .failed breakdown

theorem broken_of_failed {usage : Usage} (sound : Sound usage.source) {breakdown : Breakdown}
    (answered : usage.source.next.1 = .failed breakdown) : (usage.step .next).2.Broken breakdown := by
  obtain ⟨closed, verdict⟩ := final_next sound (by rw [answered]; trivial)
  refine ⟨closed, ?_⟩
  intro later operation answer called
  have kept := @kept_run (usage.step .next).2 closed later
  have move := called ▸ move_step ((usage.step .next).2.run later) operation
  calc answer = ((usage.step .next).2.run later).source.verdict := answer_of_closed kept.closed move
    _ = usage.source.next.2.verdict := kept.verdict
    _ = .failed breakdown := verdict.trans answered

/-- A source in any use, and a call on it that raises. The call is final or leaves the source where it was, unless it
loses a line; and a line is lost only where the encoding is none that texts are read in, with the source still open
and the line behind it. -/
theorem raised_final_or_unmoved_unless_lost (path encoding : String) (script : List (Except Fault (List UInt8)))
    (earlier : List Operation) (fault : Fault) :
    let usage := (start path encoding script).run earlier
    let source := usage.source
    let after := (usage.step .next).2
    source.next.1.raised? = some fault →
    ((∃ breakdown, source.next.1 = .failed breakdown ∧ after.Broken breakdown) ∨ Unmoved source after.source ↔
      ¬ ∃ raw, Loses source raw fault) ∧
    ∀ raw, Loses source raw fault →
      ¬ Encoding.IsText source.encoding ∧ after.source.isOpen = true ∧ after.source.line = source.line + 1 ∧
      source.handle.ahead = raw :: after.source.handle.ahead := by
  intro usage source after raised
  have sound : Sound source := sound_run (sound_ofHandle path encoding script) earlier
  have lost (raw : List UInt8) (loses : Loses source raw fault) :
      after.source = { source with handle := source.handle.read.2, line := source.line + 1 } :=
    congrArg Prod.snd (next_of_loses sound loses)
  refine ⟨⟨?_, ?_⟩, ?_⟩
  -- A loss leaves the source open, so the call was not final, and moves its count, so it did not stay either.
  · rintro (⟨breakdown, -, broken⟩ | unmoved) ⟨raw, loses⟩
    · have closed := broken.closed
      rw [lost raw loses] at closed
      cases loses.opened.symm.trans closed
    · have same := congrArg LineReader.line unmoved.same
      rw [lost raw loses] at same
      exact absurd same (Nat.succ_ne_self _)
  · intro none
    cases answered : source.next.1 with
    | line text | ended =>
      rw [answered] at raised
      cases raised
    | failed breakdown => exact .inl ⟨breakdown, rfl, broken_of_failed sound answered⟩
    | fault cause =>
      have raising : Raising source (.fault cause, source.next.2) :=
        answered ▸ raising_next sound (isOpen_of_fault answered) raised
      rw [answered] at raised
      obtain rfl : cause = fault := Option.some.inj raised
      exact .inr (raising.unmoved none)
  · intro raw loses
    rw [lost raw loses]
    exact ⟨loses.not_isText, loses.opened, rfl, ahead_of_ok loses.given⟩

/-- In an encoding that nobody knows the line `a` is lost, and the next call gives the empty line after it, as the
second. -/
theorem raised_final_or_unmoved_unless_lost_unknown :
    let usage := start "p" "nope" [.ok [0x61, 0x0A], .ok [0x0A]]
    let fault := Encoding.unknown "nope"
    let after := (usage.step .next).2
    usage.source.next.1.raised? = some fault ∧ Loses usage.source [0x61, 0x0A] fault ∧
      ¬ (∃ breakdown, usage.source.next.1 = .failed breakdown ∧ after.Broken breakdown) ∧
      ¬ Unmoved usage.source after.source ∧
      after.source.next.1 = .line "" ∧ after.source.next.2.line = 2 := by
  intro usage fault after
  have loses : Loses usage.source [0x61, 0x0A] fault :=
    ⟨rfl, rfl, by simp, Encoding.decode_of_unnamed (by decide) (by decide +kernel) (by decide), rfl⟩
  have sound : Sound usage.source := sound_ofHandle "p" "nope" _
  have answered := next_of_loses sound loses
  have raised : usage.source.next.1.raised? = some fault := congrArg (·.1.raised?) answered
  have stated := (raised_final_or_unmoved_unless_lost "p" "nope" [.ok [0x61, 0x0A], .ok [0x0A]] [] fault raised).1
  have neither := mt stated.mp (not_not_intro ⟨_, loses⟩)
  rw [not_or] at neither
  have empty : Encoding.decode "nope" (stripLineBreak [0x0A]) = .ok "" := by simp [Encoding.decode, stripLineBreak]
  have goesOn : after.source.next = (.line "", atWork "p" "nope" 2 [] [.read, .read]) := by
    have moved : after.source = usage.source.next.2 := rfl
    rw [moved, answered]
    exact next_atWork_line "p" 1 [] [.read] (by simp) empty
  exact ⟨raised, loses, neither.1, neither.2, congrArg Prod.fst goesOn, congrArg (·.2.line) goesOn⟩

end Usage

end LineReader

end Linewise
