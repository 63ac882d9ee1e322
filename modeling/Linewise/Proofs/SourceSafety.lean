import Linewise.Proofs.Reading

/-! A source of lines under any use: calls, iterators, closing and a change of encoding in any order. The handle is
closed once and never read afterwards. The end of the lines and a failure of the source itself are final: they close
the handle, and from then on every call has that answer. -/
namespace Linewise.LineReader

/-- What can be done with a source. -/
inductive Operation
  | next
  | iterate
  | advance (place : Nat)
  | close
  | enter
  | exit
  | recode (encoding : String)
  deriving Repr

/-- A source and the iterators made over it. -/
structure Usage where
  source : LineReader
  iterators : List Iterator

namespace Usage

def start (path encoding : String) (script : List (Except Fault (List UInt8))) : Usage :=
  ⟨ofHandle path encoding (.ofScript script), []⟩

/-- One operation, with the answer if a line was called for. A spent iterator calls for none. -/
def step (usage : Usage) : Operation → Option Reply × Usage
  | .next =>
    let (reply, source) := usage.source.next
    (some reply, { usage with source })
  | .iterate => (none, { usage with iterators := usage.iterators ++ [.start] })
  | .advance place =>
    match usage.iterators[place]? with
    | none => (none, usage)
    | some iterator =>
      let (reply, moved, source) := iterator.advance usage.source
      (if iterator.spent then none else some reply, ⟨source, usage.iterators.set place moved⟩)
  | .close | .exit => (none, { usage with source := usage.source.close })
  | .enter => (none, usage)
  | .recode encoding => (none, { usage with source := { usage.source with encoding } })

def run (usage : Usage) (operations : List Operation) : Usage :=
  operations.foldl (fun usage operation => (usage.step operation).2) usage

end Usage

/-- The answer of a source that is closed. -/
def verdict (source : LineReader) : Reply := (source.failure.map Reply.failed).getD .ended

/-- The end, or the failure that ended the source. -/
def Reply.IsFinal : Reply → Prop
  | .ended | .failed _ => True
  | .line _ | .fault _ => False

/-- What holds of a source at all times. -/
structure Sound (source : LineReader) : Prop where
  ended : source.finished = true → source.isOpen = false
  failed : source.failure.isSome → source.isOpen = false
  unclosed : source.isOpen = true → .close ∉ source.handle.calls
  closed : source.isOpen = false → ∃ reads, source.handle.calls = .close :: reads ∧ .close ∉ reads

namespace Sound

variable {source : LineReader}

theorem unfailed (sound : Sound source) (opened : source.isOpen = true) : source.failure = none := by
  cases failed : source.failure with
  | none => rfl
  | some breakdown => simpa [opened] using sound.failed (by simp [failed])

theorem unfinished (sound : Sound source) (opened : source.isOpen = true) : source.finished = false := by
  cases ended : source.finished with
  | false => rfl
  | true => simpa [opened] using sound.ended ended

theorem closes_le_one (sound : Sound source) : source.handle.closes ≤ 1 := by
  cases opened : source.isOpen with
  | true => simp [Handle.closes, List.count_eq_zero.mpr (sound.unclosed opened)]
  | false =>
    obtain ⟨reads, calls, unclosed⟩ := sound.closed opened
    simp [Handle.closes, calls, List.count_eq_zero.mpr unclosed]

theorem isOpen_eq_false_iff (sound : Sound source) : source.isOpen = false ↔ 0 < source.handle.closes := by
  cases opened : source.isOpen with
  | true => simp [Handle.closes, List.count_eq_zero.mpr (sound.unclosed opened)]
  | false =>
    obtain ⟨reads, calls, -⟩ := sound.closed opened
    simp [Handle.closes, calls]

/-- No call of any kind comes after the handle is closed. -/
theorem eq_nil_of_calls (sound : Sound source) {late early : List HandleCall}
    (calls : source.handle.calls = late ++ .close :: early) : late = [] := by
  cases opened : source.isOpen with
  | true => exact absurd (by simp [calls]) (sound.unclosed opened)
  | false =>
    obtain ⟨reads, known, unclosed⟩ := sound.closed opened
    rw [known] at calls
    cases late with
    | nil => rfl
    | cons call late =>
      obtain ⟨-, rfl⟩ := List.cons_eq_cons.mp calls
      simp at unclosed

end Sound

theorem sound_of_open {source : LineReader} (opened : source.isOpen = true) (unfinished : source.finished = false)
    (unfailed : source.failure = none) (unclosed : .close ∉ source.handle.calls) : Sound source where
  ended := by simp [unfinished]
  failed := by simp [unfailed]
  unclosed _ := unclosed
  closed := by simp [opened]

theorem sound_close_of_open {source : LineReader} (opened : source.isOpen = true)
    (unclosed : .close ∉ source.handle.calls) : Sound source.close where
  ended _ := isOpen_close source
  failed _ := isOpen_close source
  unclosed := by simp
  closed _ := by simpa [close, opened, Handle.close] using unclosed

theorem sound_close {source : LineReader} (sound : Sound source) : Sound source.close := by
  cases opened : source.isOpen with
  | false => rwa [close_of_closed source opened]
  | true => exact sound_close_of_open opened (sound.unclosed opened)

theorem sound_ofHandle (path encoding : String) (script : List (Except Fault (List UInt8))) :
    Sound (ofHandle path encoding (.ofScript script)) :=
  sound_of_open rfl rfl rfl (by simp [ofHandle, Handle.ofScript])

theorem next_of_closed {source : LineReader} (closed : source.isOpen = false) :
    source.next = (source.verdict, source) := by
  cases failed : source.failure <;> simp [next, verdict, failed, closed]

/-- Everything a call can come to. -/
inductive Turn (source : LineReader) : Reply × LineReader → Prop
  | shut (closed : source.isOpen = false) : Turn source (source.verdict, source)
  | line (opened : source.isOpen = true) (text : String) :
      Turn source (.line text, { source with handle := source.handle.read.2, line := source.line + 1 })
  | ended (opened : source.isOpen = true) :
      Turn source (.ended, { source with handle := source.handle.read.2, finished := true }.close)
  | failed (opened : source.isOpen = true) (breakdown : Breakdown) :
      Turn source (.failed breakdown,
        { source with
          handle := source.handle.read.2
          line := source.line + 1
          failure := some breakdown
          made := source.made + 1 }.close)
  | fault (opened : source.isOpen = true) (fault : Fault) (line : Nat) (least : source.line ≤ line)
      (most : line ≤ source.line + 1) :
      Turn source (.fault fault, { source with handle := source.handle.read.2, line })

section

variable {source : LineReader} (sound : Sound source) (opened : source.isOpen = true)

include sound opened

theorem next_of_read {raw : List UInt8} (read : source.handle.read.1 = .ok raw) :
    source.next = { source with handle := source.handle.read.2 }.receive raw := by
  simp [next, sound.unfailed opened, sound.unfinished opened, opened, read]

theorem next_of_read_error {fault : Fault} (read : source.handle.read.1 = .error fault) :
    source.next =
      if fault.isA .system then { source with handle := source.handle.read.2 }.fail (source.line + 1) fault
      else (.fault fault, { source with handle := source.handle.read.2 }) := by
  simp [next, sound.unfailed opened, sound.unfinished opened, opened, read]

end

theorem turn_next {source : LineReader} (sound : Sound source) : Turn source source.next := by
  cases opened : source.isOpen with
  | false =>
    rw [next_of_closed opened]
    exact .shut opened
  | true =>
    cases read : source.handle.read.1 with
    | error fault =>
      rw [next_of_read_error sound opened read]
      by_cases system : fault.isA .system
      · rw [if_pos system]
        exact .failed opened _
      · rw [if_neg system]
        exact .fault opened fault source.line (by omega) (by omega)
    | ok raw =>
      rw [next_of_read sound opened read, receive]
      by_cases none : raw = []
      · rw [if_pos none]
        exact .ended opened
      · rw [if_neg none]
        simp only
        cases Encoding.decode source.encoding (stripLineBreak raw) with
        | ok text => exact .line opened text
        | error fault =>
          by_cases undecodable : fault.isA .undecodable
          · simp only [undecodable, if_true]
            exact .failed opened _
          · simp only [undecodable]
            exact .fault opened fault (source.line + 1) (by omega) (by omega)

@[simp] theorem calls_read (handle : Handle) : handle.read.2.calls = .read :: handle.calls := by
  cases script : handle.script <;> simp [Handle.read, script]

theorem sound_next {source : LineReader} (sound : Sound source) : Sound source.next.2 := by
  have turn := turn_next sound
  generalize source.next = result at turn
  cases turn with
  | shut closed => exact sound
  | line opened text =>
    refine sound_of_open opened (sound.unfinished opened) (sound.unfailed opened) ?_
    simpa using sound.unclosed opened
  | ended opened => exact sound_close_of_open opened (by simpa using sound.unclosed opened)
  | failed opened breakdown => exact sound_close_of_open opened (by simpa using sound.unclosed opened)
  | fault opened fault line least most =>
    refine sound_of_open opened (sound.unfinished opened) (sound.unfailed opened) ?_
    simpa using sound.unclosed opened

/-- A final answer closes the source, which keeps it. -/
theorem final_next {source : LineReader} (sound : Sound source) (final : source.next.1.IsFinal) :
    source.next.2.isOpen = false ∧ source.next.2.verdict = source.next.1 := by
  have turn := turn_next sound
  generalize source.next = result at turn final
  cases turn with
  | shut closed => exact ⟨closed, rfl⟩
  | line opened text => exact final.elim
  | ended opened => exact ⟨isOpen_close _, by simp [close, opened, verdict, sound.unfailed opened]⟩
  | failed opened breakdown => exact ⟨isOpen_close _, by simp [close, opened, verdict]⟩
  | fault opened fault line least most => exact final.elim

theorem line_next {source : LineReader} (sound : Sound source) :
    source.line ≤ source.next.2.line ∧ source.next.2.line ≤ source.line + 1 := by
  have turn := turn_next sound
  generalize source.next = result at turn
  cases turn with
  | shut closed => exact ⟨Nat.le_refl _, Nat.le_succ _⟩
  | line opened text => exact ⟨Nat.le_succ _, Nat.le_refl _⟩
  | ended opened => simp [close, opened]
  | failed opened breakdown => simp [close, opened]
  | fault opened fault line least most => exact ⟨least, most⟩

/-- What an operation comes to for the source: a call, or no answer and hardly a change. -/
inductive Move (source : LineReader) : Option Reply → LineReader → Prop
  | call : Move source (some source.next.1) source.next.2
  | idle : Move source none source
  | close : Move source none source.close
  | recode (encoding : String) : Move source none { source with encoding }

theorem advance_unspent {iterator : Iterator} (unspent : iterator.spent = false) (source : LineReader) :
    (iterator.advance source).1 = source.next.1 ∧ (iterator.advance source).2.2 = source.next.2 := by
  simp only [Iterator.advance, unspent, Bool.false_eq_true, if_false]
  cases source.next with
  | mk reply source => cases reply <;> exact ⟨rfl, rfl⟩

theorem move_step (usage : Usage) (operation : Operation) :
    Move usage.source (usage.step operation).1 (usage.step operation).2.source := by
  cases operation with
  | next => exact .call
  | iterate => exact .idle
  | close => exact .close
  | enter => exact .idle
  | exit => exact .close
  | recode encoding => exact .recode encoding
  | advance place =>
    simp only [Usage.step]
    cases found : usage.iterators[place]? with
    | none => exact .idle
    | some iterator =>
      cases spent : iterator.spent with
      | true =>
        simp only [Iterator.advance, spent, if_true]
        exact .idle
      | false =>
        obtain ⟨answered, moved⟩ := advance_unspent spent usage.source
        simp only [spent, Bool.false_eq_true, if_false, answered, moved]
        exact .call

/-- A later state of a closed source: nothing that can be seen of it has changed. -/
structure Kept (source later : LineReader) : Prop where
  closed : later.isOpen = false
  verdict : later.verdict = source.verdict
  line : later.line = source.line
  made : later.made = source.made
  handle : later.handle = source.handle

section

variable {source later : LineReader} {reply : Option Reply}

theorem sound_move (sound : Sound source) (move : Move source reply later) : Sound later := by
  cases move with
  | call => exact sound_next sound
  | idle => exact sound
  | close => exact sound_close sound
  | recode encoding => exact ⟨sound.ended, sound.failed, sound.unclosed, sound.closed⟩

theorem line_move (sound : Sound source) (move : Move source reply later) :
    source.line ≤ later.line ∧ later.line ≤ source.line + (if reply.isSome then 1 else 0) := by
  cases move with
  | call => exact line_next sound
  | idle => exact ⟨Nat.le_refl _, Nat.le_refl _⟩
  | close => cases opened : source.isOpen <;> simp [close, opened]
  | recode encoding => exact ⟨Nat.le_refl _, Nat.le_refl _⟩

theorem kept_move (closed : source.isOpen = false) (move : Move source reply later) : Kept source later := by
  cases move with
  | call => rw [next_of_closed closed]; exact ⟨closed, rfl, rfl, rfl, rfl⟩
  | idle => exact ⟨closed, rfl, rfl, rfl, rfl⟩
  | close => rw [close_of_closed source closed]; exact ⟨closed, rfl, rfl, rfl, rfl⟩
  | recode encoding => exact ⟨closed, rfl, rfl, rfl, rfl⟩

theorem answer_of_closed (closed : source.isOpen = false) {answer : Reply}
    (move : Move source (some answer) later) : answer = source.verdict := by
  cases move with
  | call => rw [next_of_closed closed]

theorem final_move (sound : Sound source) {answer : Reply} (final : answer.IsFinal)
    (move : Move source (some answer) later) : later.isOpen = false ∧ later.verdict = answer := by
  cases move with
  | call => exact final_next sound final

end

namespace Usage

theorem sound_run {usage : Usage} (sound : Sound usage.source) (operations : List Operation) :
    Sound (usage.run operations).source := by
  induction operations generalizing usage with
  | nil => exact sound
  | cons operation rest ih => exact ih (sound_move sound (move_step usage operation))

theorem kept_run {usage : Usage} (closed : usage.source.isOpen = false) (operations : List Operation) :
    Kept usage.source (usage.run operations).source := by
  induction operations generalizing usage with
  | nil => exact ⟨closed, rfl, rfl, rfl, rfl⟩
  | cons operation rest ih =>
    have first := kept_move closed (move_step usage operation)
    have others := ih first.closed
    exact ⟨others.closed, others.verdict.trans first.verdict, others.line.trans first.line,
      others.made.trans first.made, others.handle.trans first.handle⟩

/-- A source in any use. The handle is closed at most once, and not read afterwards; being closed and having
closed it are the same. The count of lines goes up by at most one a call, and stays where it is once the source is
closed. The end and a failure of the source itself close it, and are the answer to every call from then on. -/
theorem final_answers_stay (path encoding : String) (script : List (Except Fault (List UInt8)))
    (earlier : List Operation) :
    let usage := (start path encoding script).run earlier
    let source := usage.source
    source.handle.closes ≤ 1 ∧ (source.isOpen = false ↔ 0 < source.handle.closes) ∧
    (∀ late early, source.handle.calls = late ++ .close :: early → .read ∉ late) ∧
    (source.isOpen = false → ∀ later, (usage.run later).source.line = source.line) ∧
    ∀ operation,
      let reply := (usage.step operation).1
      let after := (usage.step operation).2
      source.line ≤ after.source.line ∧ after.source.line ≤ source.line + (if reply.isSome then 1 else 0) ∧
      ∀ answer, reply = some answer → answer.IsFinal → after.source.handle.closes = 1 ∧
        ∀ later,
          let last := after.run later
          last.source.line = after.source.line ∧ last.source.made = after.source.made ∧
          last.source.next.1 = answer ∧ (Iterator.start.advance last.source).1 = answer ∧
          ∀ again other, (last.step again).1 = some other → other = answer := by
  intro usage source
  have sound : Sound source := sound_run (sound_ofHandle path encoding script) earlier
  refine ⟨sound.closes_le_one, sound.isOpen_eq_false_iff, ?_, ?_, ?_⟩
  · intro late early calls
    simp [sound.eq_nil_of_calls calls]
  · intro closed later
    exact (kept_run closed later).line
  · intro operation reply after
    have move : Move source reply after.source := move_step usage operation
    obtain ⟨least, most⟩ := line_move sound move
    refine ⟨least, most, ?_⟩
    intro answer answered final
    rw [answered] at move
    obtain ⟨closed, verdict⟩ := final_move sound final move
    have soundAfter := sound_move sound move
    refine ⟨?_, ?_⟩
    · exact Nat.le_antisymm soundAfter.closes_le_one (soundAfter.isOpen_eq_false_iff.mp closed)
    · intro later last
      have kept : Kept after.source last.source := kept_run closed later
      have same : last.source.next = (answer, last.source) := by
        rw [next_of_closed kept.closed, kept.verdict, verdict]
      refine ⟨kept.line, kept.made, by rw [same], ?_, ?_⟩
      · exact (advance_unspent rfl last.source).1.trans (by rw [same])
      · intro again other called
        have next : Move last.source (some other) (last.step again).2.source := called ▸ move_step last again
        rw [answer_of_closed kept.closed next, kept.verdict, verdict]

/-- A failed reading that the handle itself raises is passed on, and is not final: the next call reads on. -/
theorem raised_failure_not_final :
    let raised : Fault := .failed (.reading "q" (some 7)) (some (.value "x"))
    let usage := start "p" "utf-8" [.error raised, .ok [0x61, 0x0A]]
    let after := (usage.step .next).2
    raised.isA .readFailed = true ∧ (usage.step .next).1 = some (.fault raised) ∧
      after.source.isOpen = true ∧ after.source.handle.closes = 0 ∧ (after.step .next).1 = some (.line "a") := by
  intro raised usage after
  have decoded : Encoding.decode "utf-8" (stripLineBreak [0x61, 0x0A]) = .ok "a" := by
    rw [Encoding.decode_of_find Encoding.find_utf8]
    rfl
  have read : (after.source.next).1 = .line "a" :=
    congrArg Prod.fst (next_atWork_line "p" 0 [] [.read] (by simp) decoded)
  exact ⟨rfl, rfl, rfl, rfl, congrArg some read⟩

end Usage

end Linewise.LineReader
