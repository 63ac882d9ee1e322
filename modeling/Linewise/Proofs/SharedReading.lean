import Linewise.Proofs.SourceSafety

/-! Several consumers of one source. Direct calls and iterators all move the same cursor, so whoever asks gets the next
line: together the consumers see the lines that one alone would see, each once and in order. -/
namespace Linewise.LineReader

/-- The operations by which lines are taken. -/
def Operation.IsTaking : Operation → Prop
  | .next | .iterate | .advance _ => True
  | .close | .enter | .exit | .recode _ => False

namespace Reply

def line? : Reply → Option String
  | .line text => some text
  | .ended | .failed _ | .fault _ => none

/-- A call that gave neither a line nor the end. -/
def IsFailure : Reply → Prop
  | .failed _ | .fault _ => True
  | .line _ | .ended => False

/-- The lines among some answers. -/
def linesOf (replies : List Reply) : List String := replies.filterMap line?

@[simp] theorem linesOf_concat (replies : List Reply) (reply : Reply) :
    linesOf (replies ++ [reply]) = linesOf replies ++ reply.line?.toList := by
  cases reply <;> simp [linesOf, line?]

end Reply

namespace Usage

/-- What a consumer sees of an operation. An iterator that is spent shows the end. -/
def seen (usage : Usage) : Operation → Option Reply
  | .next => some usage.source.next.1
  | .advance place => usage.iterators[place]?.map fun iterator => (iterator.advance usage.source).1
  | .iterate | .close | .enter | .exit | .recode _ => none

/-- What the consumers see, in the order of the operations. -/
def sights (usage : Usage) : List Operation → List Reply
  | [] => []
  | operation :: rest => (usage.seen operation).toList ++ sights (usage.step operation).2 rest

def AnySpent (usage : Usage) : Prop := ∃ iterator ∈ usage.iterators, iterator.spent = true

/-- Everything that taking can come to: a call, the end shown by a spent iterator, or nothing. No iterator is spent by
a line. -/
inductive Taking (usage : Usage) : Option Reply → Usage → Prop
  | call {later : Usage} (moved : later.source = usage.source.next.2)
      (spent : later.AnySpent → usage.AnySpent ∨ usage.source.next.1.line? = none) :
      Taking usage (some usage.source.next.1) later
  | exhausted {later : Usage} (ended : usage.AnySpent) (still : later.source = usage.source) : Taking usage (some .ended) later
  | idle {later : Usage} (still : later.source = usage.source) (spent : later.AnySpent → usage.AnySpent) :
      Taking usage none later

theorem spent_advance {iterator : Iterator} (unspent : iterator.spent = false) (source : LineReader)
    (spent : (iterator.advance source).2.1.spent = true) : source.next.1.line? = none := by
  simp only [Iterator.advance, unspent, Bool.false_eq_true, if_false] at spent
  cases answer : source.next with
  | mk reply later =>
    cases reply with
    | line text => simp [answer, unspent] at spent
    | ended | failed _ | fault _ => rfl

theorem taking_step (usage : Usage) {operation : Operation} (taking : operation.IsTaking) :
    Taking usage (usage.seen operation) (usage.step operation).2 := by
  cases operation with
  | next => exact .call rfl .inl
  | iterate =>
    refine .idle rfl ?_
    rintro ⟨iterator, member, spent⟩
    rcases List.mem_append.mp member with old | new
    · exact ⟨iterator, old, spent⟩
    · rw [List.mem_singleton.mp new] at spent
      cases spent
  | advance place =>
    simp only [seen, step]
    cases found : usage.iterators[place]? with
    | none => exact .idle rfl id
    | some iterator =>
      have old : iterator ∈ usage.iterators := List.mem_of_getElem? found
      cases spent : iterator.spent with
      | true =>
        simp only [Option.map_some, Iterator.advance, spent, if_true]
        exact .exhausted ⟨iterator, old, spent⟩ rfl
      | false =>
        obtain ⟨answered, moved⟩ := advance_unspent spent usage.source
        simp only [Option.map_some, answered]
        refine .call moved ?_
        rintro ⟨other, member, otherSpent⟩
        rcases List.mem_or_eq_of_mem_set member with old | rfl
        · exact .inl ⟨other, old, otherSpent⟩
        · exact .inr (spent_advance spent usage.source otherSpent)
  | close | enter | exit | recode _ => exact taking.elim

end Usage

/-- A source in a known text encoding over a handle that raises nothing. -/
structure Steady (source : LineReader) : Prop where
  known : Encoding.IsText source.encoding
  readable : ∀ answer ∈ source.handle.script, ∃ raw, answer = .ok raw

theorem script_read (handle : Handle) : handle.read.2.script = handle.script.tail := by
  cases script : handle.script <;> simp [Handle.read, script]

theorem Steady.read {source : LineReader} (steady : Steady source) : ∃ raw, source.handle.read.1 = .ok raw := by
  cases script : source.handle.script with
  | nil => exact ⟨[], by simp [Handle.read, script]⟩
  | cons answer rest =>
    obtain ⟨raw, rfl⟩ := steady.readable answer (by simp [script])
    exact ⟨raw, by simp [Handle.read, script]⟩

theorem steady_of_handle {source later : LineReader} (steady : Steady source)
    (encoding : later.encoding = source.encoding) (script : later.handle.script = source.handle.script.tail) :
    Steady later where
  known := encoding ▸ steady.known
  readable answer member := steady.readable answer (List.mem_of_mem_tail (script ▸ member))

section

variable {source : LineReader} (sound : Sound source) (steady : Steady source)

include sound steady

theorem steady_next : Steady source.next.2 := by
  have turn := turn_next sound
  generalize source.next = result at turn
  cases turn with
  | shut closed => exact steady
  | line opened text => exact steady_of_handle steady rfl (script_read _)
  | ended opened =>
    exact steady_of_handle steady (by simp [close, opened]) (by simp [close, opened, Handle.close, script_read])
  | failed opened breakdown =>
    exact steady_of_handle steady (by simp [close, opened]) (by simp [close, opened, Handle.close, script_read])
  | fault opened fault line least most => exact steady_of_handle steady rfl (script_read _)

/-- Such a source answers with a line or for good. -/
theorem line_or_final_next : source.next.1.line?.isSome ∨ source.next.1.IsFinal := by
  cases opened : source.isOpen with
  | false =>
    rw [next_of_closed opened, verdict]
    cases source.failure <;> exact .inr trivial
  | true =>
    obtain ⟨raw, read⟩ := steady.read
    rw [next_of_read sound opened read, receive]
    by_cases none : raw = []
    · rw [if_pos none]
      exact .inr trivial
    · rw [if_neg none]
      simp only
      cases decoded : Encoding.decode source.encoding (stripLineBreak raw) with
      | ok text => exact .inl rfl
      | error fault =>
        obtain ⟨cause, rfl⟩ := Encoding.undecodable_of_decode_error steady.known decoded
        exact .inr trivial

end

theorem listFrom_final {source : LineReader} (sound : Sound source) (final : source.next.1.IsFinal) (fuel more : Nat) :
    listFrom (fuel + 1) source = listFrom (more + 1) source.next.2 := by
  obtain ⟨closed, verdict⟩ := final_next sound final
  rw [listFrom, listFrom, next_of_closed closed, verdict]
  generalize source.next = result at final
  obtain ⟨reply, later⟩ := result
  cases reply with
  | ended | failed _ => rfl
  | line _ | fault _ => exact final.elim

theorem verdict_ne_line (source : LineReader) (text : String) : source.verdict ≠ .line text := by
  unfold verdict
  cases source.failure <;> simp

theorem next_of_line {source later : LineReader} {text : String} (sound : Sound source)
    (answered : source.next = (.line text, later)) :
    source.isOpen = true ∧ later = { source with handle := source.handle.read.2, line := source.line + 1 } := by
  have turn := turn_next sound
  generalize source.next = result at turn answered
  cases turn with
  | shut closed => exact absurd (congrArg Prod.fst answered) (verdict_ne_line source text)
  | line opened other => cases answered; exact ⟨opened, rfl⟩
  | ended opened | failed opened _ | fault opened _ _ _ _ => cases answered

/-- Each line uses up one answer of the handle. -/
theorem script_of_line {source later : LineReader} {text : String} (sound : Sound source)
    (answered : source.next = (.line text, later)) :
    source.handle.script.length = later.handle.script.length + 1 := by
  obtain ⟨opened, rfl⟩ := next_of_line sound answered
  cases script : source.handle.script with
  | nil =>
    have read : source.handle.read.1 = .ok [] := by simp [Handle.read, script]
    rw [next_of_read sound opened read] at answered
    simp [receive] at answered
  | cons answer rest => simp [script_read, script]

/-- What is left to list before a call is what the call gives and what is left after it. -/
theorem list_next {source : LineReader} (sound : Sound source) (steady : Steady source) :
    source.list.lines = source.next.1.line?.toList ++ source.next.2.list.lines ∧
      source.list.stop = source.next.2.list.stop := by
  rcases line_or_final_next sound steady with line | final
  · cases answered : source.next with
    | mk reply later =>
      rw [answered] at line
      cases reply with
      | line text =>
        rw [list, listFrom, answered, script_of_line sound answered]
        exact ⟨rfl, rfl⟩
      | ended | failed _ | fault _ => cases line
  · have none : source.next.1.line? = none := by
      cases reply : source.next.1 with
      | line text => rw [reply] at final; exact final.elim
      | ended | failed _ | fault _ => rfl
    have same : source.list = source.next.2.list := listFrom_final sound final _ _
    rw [none, same]
    exact ⟨rfl, rfl⟩

/-- What the consumers have seen so far, against the listing of the whole. -/
structure Shares (whole : Listing) (usage : Usage) (sights : List Reply) : Prop where
  sound : Sound usage.source
  steady : Steady usage.source
  lines : whole.lines = Reply.linesOf sights ++ usage.source.list.lines
  stop : whole.stop = usage.source.list.stop
  count : usage.source.isOpen = true → usage.source.line = (Reply.linesOf sights).length
  spent : usage.AnySpent → usage.source.isOpen = false
  ended : .ended ∈ sights → usage.source.isOpen = false
  failed : usage.source.failure.isSome → ∃ reply ∈ sights, reply.IsFailure

namespace Shares

variable {whole : Listing} {usage later : Usage} {sights : List Reply}

/-- Only a line leaves a source open. -/
theorem closed_next (shares : Shares whole usage sights) (lineless : usage.source.next.1.line? = none) :
    usage.source.next.2.isOpen = false := by
  rcases line_or_final_next shares.sound shares.steady with line | final
  · rw [lineless] at line
    cases line
  · exact (final_next shares.sound final).1

theorem closed_stays (closed : usage.source.isOpen = false) : usage.source.next.2.isOpen = false := by
  rw [next_of_closed closed]
  exact closed

theorem count_next (shares : Shares whole usage sights) (opened : usage.source.next.2.isOpen = true) :
    usage.source.next.2.line = (Reply.linesOf (sights ++ [usage.source.next.1])).length := by
  cases answered : usage.source.next with
  | mk reply after =>
    rw [answered] at opened
    cases reply with
    | line text =>
      obtain ⟨wasOpen, rfl⟩ := next_of_line shares.sound answered
      simp [shares.count wasOpen, Reply.line?]
    | ended | failed _ | fault _ =>
      have closed := shares.closed_next (by rw [answered]; rfl)
      rw [answered, opened] at closed
      cases closed

/-- A source that has failed has shown it. -/
theorem failed_next (shares : Shares whole usage sights) (failed : usage.source.next.2.failure.isSome) :
    ∃ reply ∈ sights ++ [usage.source.next.1], reply.IsFailure := by
  rcases line_or_final_next shares.sound shares.steady with line | final
  · cases answered : usage.source.next with
    | mk reply after =>
      rw [answered] at line failed
      cases reply with
      | line text =>
        obtain ⟨wasOpen, rfl⟩ := next_of_line shares.sound answered
        simp [shares.sound.unfailed wasOpen] at failed
      | ended | failed _ | fault _ => cases line
  · obtain ⟨breakdown, known⟩ := Option.isSome_iff_exists.mp failed
    have verdict := (final_next shares.sound final).2
    simp only [LineReader.verdict, known, Option.map_some, Option.getD_some] at verdict
    exact ⟨.failed breakdown, by simp [verdict], trivial⟩

theorem call (shares : Shares whole usage sights) (moved : later.source = usage.source.next.2)
    (spent : later.AnySpent → usage.AnySpent ∨ usage.source.next.1.line? = none) :
    Shares whole later (sights ++ [usage.source.next.1]) := by
  obtain ⟨source, iterators⟩ := later
  obtain rfl : source = usage.source.next.2 := moved
  obtain ⟨listed, stopped⟩ := list_next shares.sound shares.steady
  refine ⟨sound_next shares.sound, steady_next shares.sound shares.steady, ?_, shares.stop.trans stopped,
    shares.count_next, ?_, ?_, shares.failed_next⟩
  · rw [shares.lines, listed, Reply.linesOf_concat, List.append_assoc]
  · intro any
    rcases spent any with old | lineless
    · exact closed_stays (shares.spent old)
    · exact shares.closed_next lineless
  · intro ended
    rcases List.mem_append.mp ended with old | new
    · exact closed_stays (shares.ended old)
    · exact shares.closed_next (by rw [← List.mem_singleton.mp new]; rfl)

theorem step (shares : Shares whole usage sights) {reply : Option Reply} (taking : usage.Taking reply later) :
    Shares whole later (sights ++ reply.toList) := by
  cases taking with
  | call moved spent => exact shares.call moved spent
  | exhausted ended still =>
    obtain ⟨source, iterators⟩ := later
    obtain rfl : source = usage.source := still
    have closed := shares.spent ended
    refine ⟨shares.sound, shares.steady, by simpa [Reply.line?] using shares.lines, shares.stop,
      by simpa [Reply.line?] using shares.count, fun _ => closed, fun _ => closed, ?_⟩
    intro failed
    obtain ⟨reply, member, failure⟩ := shares.failed failed
    exact ⟨reply, by simp [member], failure⟩
  | idle still spent =>
    obtain ⟨source, iterators⟩ := later
    obtain rfl : source = usage.source := still
    simp only [Option.toList_none, List.append_nil]
    exact ⟨shares.sound, shares.steady, shares.lines, shares.stop, shares.count, fun any => shares.spent (spent any),
      shares.ended, shares.failed⟩

theorem run (shares : Shares whole usage sights) {operations : List Operation}
    (taking : ∀ operation ∈ operations, operation.IsTaking) :
    Shares whole (usage.run operations) (sights ++ usage.sights operations) := by
  induction operations generalizing usage sights with
  | nil => simpa [Usage.sights, Usage.run] using shares
  | cons operation rest ih =>
    have first := shares.step (usage.taking_step (taking operation (by simp)))
    have others := ih first fun other member => taking other (by simp [member])
    rw [List.append_assoc] at others
    exact others

/-- Where the end was seen and no failure, everything was seen. -/
theorem complete (shares : Shares whole usage sights) (ended : .ended ∈ sights)
    (unfailed : ∀ reply ∈ sights, ¬ reply.IsFailure) :
    Reply.linesOf sights = whole.lines ∧ whole.stop = none := by
  have none : usage.source.failure = none := by
    cases failed : usage.source.failure with
    | none => rfl
    | some breakdown =>
      obtain ⟨reply, member, failure⟩ := shares.failed (by simp [failed])
      exact absurd failure (unfailed reply member)
  have drained : usage.source.list = ⟨[], Option.none, usage.source⟩ := by
    rw [list, listFrom, next_of_closed (shares.ended ended), verdict, none]
    rfl
  refine ⟨?_, ?_⟩
  · rw [shares.lines, drained]
    simp
  · rw [shares.stop, drained]

end Shares

theorem shares_start (path : String) {encoding : String} (known : Encoding.IsText encoding) (content : List UInt8) :
    Shares (ofHandle path encoding (.ofBytes content)).list ⟨ofHandle path encoding (.ofBytes content), []⟩ [] where
  sound := sound_ofHandle path encoding _
  steady := ⟨known, fun answer member => by
    obtain ⟨raw, -, rfl⟩ := List.mem_map.mp member
    exact ⟨raw, rfl⟩⟩
  lines := rfl
  stop := rfl
  count _ := rfl
  spent := by
    rintro ⟨iterator, member, -⟩
    cases member
  ended := by simp
  failed := by simp [ofHandle]

theorem isOpen_of_line {usage later : Usage} {text : String} (sound : Sound usage.source)
    (taking : usage.Taking (some (.line text)) later) : later.source.isOpen = true := by
  generalize given : some (Reply.line text) = reply at taking
  cases taking with
  | call moved spent =>
    have answered : usage.source.next = (.line text, usage.source.next.2) := Prod.ext (Option.some.inj given).symm rfl
    obtain ⟨opened, after⟩ := next_of_line sound answered
    rw [moved, after]
    exact opened
  | exhausted ended still => cases given
  | idle still spent => cases given

/-- Consumers of one source, in any number and order. The lines they see are the first of those that one alone would
see; after each, the count of lines is the number of lines seen so far. When one of them sees the end, and none a
failure, they have seen all. -/
theorem consumers_share_lines (path : String) {encoding : String} (known : Encoding.IsText encoding)
    (content : List UInt8) (operations : List Operation)
    (taking : ∀ operation ∈ operations, operation.IsTaking) :
    let whole := (ofHandle path encoding (.ofBytes content)).list
    let first : Usage := ⟨ofHandle path encoding (.ofBytes content), []⟩
    let usage := first.run operations
    let sights := first.sights operations
    let lines := Reply.linesOf sights
    lines <+: whole.lines ∧
    (∀ operation text, operation.IsTaking → usage.seen operation = some (.line text) →
      (usage.step operation).2.source.line = lines.length + 1) ∧
    (.ended ∈ sights → (∀ reply ∈ sights, ¬ reply.IsFailure) → lines = whole.lines ∧ whole.stop = none) := by
  intro whole first usage sights lines
  have shares : Shares whole usage sights := (shares_start path known content).run taking
  refine ⟨⟨_, shares.lines.symm⟩, ?_, shares.complete⟩
  intro operation text takes line
  have taken := usage.taking_step takes
  rw [line] at taken
  simpa [Reply.line?] using (shares.step taken).count (isOpen_of_line shares.sound taken)

/-- A direct call between two iterators: the second iterator finds the end, and then so does the first. -/
theorem consumers_share_two_lines :
    let content : List UInt8 := [0x61, 0x0A, 0x62, 0x0A]
    let operations : List Operation := [.iterate, .advance 0, .next, .iterate, .advance 1, .advance 0, .advance 1]
    let whole := (ofHandle "f" "utf-8" (.ofBytes content)).list
    let sights := Usage.sights ⟨ofHandle "f" "utf-8" (.ofBytes content), []⟩ operations
    Encoding.IsText "utf-8" ∧ (∀ operation ∈ operations, operation.IsTaking) ∧ .ended ∈ sights ∧
      (∀ reply ∈ sights, ¬ reply.IsFailure) ∧ Reply.linesOf sights = ["a", "b"] ∧
      Reply.linesOf sights = whole.lines ∧ whole.stop = none := by
  intro content operations whole sights
  have known : Encoding.IsText "utf-8" := ⟨.utf8, Encoding.find_utf8⟩
  have taking : ∀ operation ∈ operations, operation.IsTaking := by
    simp [operations, Operation.IsTaking]
  have ended : .ended ∈ sights := by
    have some : sights.any (· matches .ended) = true := by decide +kernel
    obtain ⟨reply, member, isEnd⟩ := List.any_eq_true.mp some
    cases reply with
    | ended => exact member
    | line _ | failed _ | fault _ => cases isEnd
  have unfailed : ∀ reply ∈ sights, ¬ reply.IsFailure := by
    have none : sights.all (fun reply => reply matches .line _ | .ended) = true := by decide +kernel
    intro reply member failure
    have fine := List.all_eq_true.mp none reply member
    cases reply with
    | line _ | ended => exact failure
    | failed _ | fault _ => cases fine
  obtain ⟨-, -, complete⟩ := consumers_share_lines "f" known content operations taking
  exact ⟨known, taking, ended, unfailed, by decide +kernel, complete ended unfailed⟩

end Linewise.LineReader
