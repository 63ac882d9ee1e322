import Linewise.Proofs.LogTrace

/-! The loop of a pipeline over its source, step by step up to its end. Every loop has one: each line uses up an answer
of the handle. Whichever way it goes, the handle is closed once and not read much longer than its script; and the
numbers that the pipeline gives to the lines are those that the source counts. -/
namespace Linewise

/-- How often the handle was read. -/
def Handle.reads (handle : Handle) : Nat := handle.calls.count .read

@[simp] theorem Handle.reads_read (handle : Handle) : handle.read.2.reads = handle.reads + 1 := by
  simp [reads]

@[simp] theorem Handle.reads_close (handle : Handle) : handle.close.reads = handle.reads := by
  simp [reads, close]

namespace LineReader

variable {source later : LineReader} {reply : Reply}

@[simp] theorem line_close (source : LineReader) : source.close.line = source.line := by
  cases opened : source.isOpen <;> simp [close, opened]

@[simp] theorem reads_close (source : LineReader) : source.close.handle.reads = source.handle.reads := by
  cases opened : source.isOpen <;> simp [close, opened]

theorem Sound.closes_close (sound : Sound source) : source.close.handle.closes = 1 := by
  have after := sound_close sound
  apply Nat.le_antisymm after.closes_le_one
  exact after.isOpen_eq_false_iff.mp (isOpen_close source)

theorem sound_of_next (sound : Sound source) (answered : source.next = (reply, later)) : Sound later := by
  have after := sound_next sound
  rwa [answered] at after

theorem reads_of_next (sound : Sound source) (answered : source.next = (reply, later)) :
    later.handle.reads ≤ source.handle.reads + 1 := by
  have turn := turn_next sound
  rw [answered] at turn
  cases turn with
  | shut closed => exact Nat.le_succ _
  | line opened text => simp
  | ended opened => simp
  | failed opened breakdown => simp
  | fault opened fault line least most => simp

theorem line_of_line {text : String} (sound : Sound source) (answered : source.next = (.line text, later)) :
    later.line = source.line + 1 := by
  obtain ⟨-, rfl⟩ := next_of_line sound answered
  rfl

theorem line_of_ended (sound : Sound source) (answered : source.next = (.ended, later)) : later.line = source.line := by
  have turn := turn_next sound
  generalize source.next = result at turn answered
  cases turn with
  | shut closed => exact congrArg (·.2.line) answered.symm
  | ended opened => cases answered; simp
  | line opened _ | failed opened _ | fault opened _ _ _ _ => cases answered

/-- A source that fails at a call has counted the line, and names it and what was wrong with it. -/
theorem broken_of_next {breakdown : Breakdown} (sound : Sound source) (unfailed : source.failure = none)
    (answered : source.next = (.failed breakdown, later)) :
    later.line = source.line + 1 ∧ ∃ given cause, source.handle.script.head? = some given ∧
      Unreadable source.encoding given cause ∧
      breakdown.failure = ⟨.reading source.path (some (source.line + 1 : Nat)), some cause⟩ := by
  cases raising_of_failed sound unfailed answered with
  | broken given unreadable failure => exact ⟨by simp, _, _, given, unreadable, failure⟩

end LineReader

/-- An opener of sources over scripted handles, whatever has been done with them before. -/
def Opener.OpensScripted (opener : Opener) : Prop :=
  ∀ (files : FileTree) (path encoding : String) (source : LineReader), opener files path encoding = .ok source →
    ∃ named known script earlier, source = ((LineReader.Usage.start named known script).run earlier).source

namespace Pipeline

open LineReader (Sound Unreadable)

/-- A line given to the transform: its number as the pipeline counts, and the source as it stands then. -/
structure Application where
  number : Nat
  line : String
  source : LineReader

/-- How the loop over a source ends: with the last line, a failure of the source, a fault of the handle or of the
encoding, a line that the transform declares to have no value, or a fault that it does not declare. -/
inductive Ending
  | exhausted
  | broken (breakdown : Breakdown)
  | interrupted (fault : Fault)
  | unparsed (number : Nat) (line : String) (cause : Fault)
  | passed (cause : Fault)

/-- The fault that stops a loop before the last line. -/
def Ending.stop : Ending → Option Fault
  | exhausted => none
  | broken breakdown => some breakdown.toFault
  | interrupted fault => some fault
  | unparsed number line cause => some (.failed (.parsing (some number) line) (some cause))
  | passed cause => some cause

/-- What a loop that ends so has to show for the values it made. -/
def Ending.result (ending : Ending) (values : List Value) : Except Fault (List Value) :=
  match ending.stop with
  | none => .ok values
  | some fault => .error fault

theorem Ending.exhausted_of_result {ending : Ending} {values found : List Value}
    (result : ending.result values = .ok found) : ending = .exhausted ∧ values = found := by
  cases ending with
  | exhausted => exact ⟨rfl, Except.ok.inj result⟩
  | broken _ | interrupted _ | unparsed _ _ _ | passed _ => cases result

/-- A loop from a count and a source on: the lines given to the transform, the values made of them, the end, and the
source as it is left. -/
inductive Course (transform : Option Transform) :
    Nat → LineReader → List Application → List Value → Ending → LineReader → Prop
  | exhausted {count : Nat} {source last : LineReader} (next : source.next = (.ended, last)) :
      Course transform count source [] [] .exhausted last
  | broken {count : Nat} {source last : LineReader} {breakdown : Breakdown}
      (next : source.next = (.failed breakdown, last)) : Course transform count source [] [] (.broken breakdown) last
  | interrupted {count : Nat} {source last : LineReader} {fault : Fault} (next : source.next = (.fault fault, last)) :
      Course transform count source [] [] (.interrupted fault) last
  | unparsed {count : Nat} {source last : LineReader} {line : String} {cause : Fault}
      (next : source.next = (.line line, last)) (made : Transform.made transform line = .error cause)
      (declared : Transform.Declares transform cause) :
      Course transform count source [⟨count + 1, line, last⟩] [] (.unparsed (count + 1) line cause) last
  | passed {count : Nat} {source last : LineReader} {line : String} {cause : Fault}
      (next : source.next = (.line line, last)) (made : Transform.made transform line = .error cause)
      (undeclared : ¬ Transform.Declares transform cause) :
      Course transform count source [⟨count + 1, line, last⟩] [] (.passed cause) last
  | accepted {count : Nat} {source later last : LineReader} {line : String} {value : Value}
      {applications : List Application} {values : List Value} {ending : Ending}
      (next : source.next = (.line line, later)) (made : Transform.made transform line = .ok value)
      (rest : Course transform (count + 1) later applications values ending last) :
      Course transform count source (⟨count + 1, line, later⟩ :: applications) (value :: values) ending last

/-- With one call more than the handle has answers, a loop comes to its end. -/
theorem course_driveFrom (transform : Option Transform) {fuel : Nat} (count : Nat) {source : LineReader}
    (sound : Sound source) (enough : source.handle.script.length < fuel) :
    ∃ applications ending,
      Course transform count source applications (driveFrom transform fuel count source).values ending
        (driveFrom transform fuel count source).source ∧
      (driveFrom transform fuel count source).stop = ending.stop := by
  induction fuel generalizing count source with
  | zero => exact absurd enough (Nat.not_lt_zero _)
  | succ fuel ih =>
    cases answered : source.next with
    | mk reply later =>
      cases reply with
      | ended =>
        simp only [driveFrom, answered]
        exact ⟨[], .exhausted, .exhausted answered, rfl⟩
      | failed breakdown =>
        simp only [driveFrom, answered]
        exact ⟨[], .broken breakdown, .broken answered, rfl⟩
      | fault fault =>
        simp only [driveFrom, answered]
        exact ⟨[], .interrupted fault, .interrupted answered, rfl⟩
      | line text =>
        simp only [driveFrom, answered]
        cases made : Transform.made transform text with
        | ok value =>
          -- The line has used up an answer of the handle, so the rest needs one call less.
          have fewer := LineReader.script_of_line sound answered
          obtain ⟨applications, ending, course, stopped⟩ :=
            ih (count + 1) (LineReader.sound_of_next sound answered) (by omega)
          rw [Transform.run_made _ made]
          exact ⟨_, ending, .accepted answered made course, stopped⟩
        | error cause =>
          by_cases declared : Transform.Declares transform cause
          · rw [Transform.run_declared _ made declared]
            exact ⟨_, _, .unparsed answered made declared, rfl⟩
          · rw [Transform.run_undeclared _ made declared]
            exact ⟨_, _, .passed answered made declared, rfl⟩

section

variable {transform : Option Transform} {count : Nat} {source last : LineReader} {applications : List Application}
  {values : List Value} {ending : Ending}

theorem Course.sound (course : Course transform count source applications values ending last) (sound : Sound source) :
    Sound last := by
  induction course with
  | exhausted next | broken next | interrupted next | unparsed next _ _ | passed next _ _ =>
    exact LineReader.sound_of_next sound next
  | accepted next made rest ih => exact ih (LineReader.sound_of_next sound next)

/-- A loop reads once for each answer that the handle has, and at most once more. -/
theorem Course.reads_le (course : Course transform count source applications values ending last)
    (sound : Sound source) : last.handle.reads ≤ source.handle.reads + source.handle.script.length + 1 := by
  induction course with
  | exhausted next | broken next | interrupted next | unparsed next _ _ | passed next _ _ =>
    have once := LineReader.reads_of_next sound next
    omega
  | accepted next made rest ih =>
    have later := ih (LineReader.sound_of_next sound next)
    have once := LineReader.reads_of_next sound next
    have fewer := LineReader.script_of_line sound next
    omega

/-- Whenever a line is given to the transform, its number is the count of the source. -/
theorem Course.number_eq (course : Course transform count source applications values ending last)
    (sound : Sound source) (same : source.line = count) :
    ∀ application ∈ applications, application.number = application.source.line := by
  induction course with
  | exhausted next | broken next | interrupted next => simp
  | unparsed next _ _ | passed next _ _ =>
    intro application member
    rw [List.mem_singleton.mp member, LineReader.line_of_line sound next, same]
  | accepted next made rest ih =>
    have counted := LineReader.line_of_line sound next
    intro application member
    rcases List.mem_cons.mp member with rfl | member
    · rw [counted, same]
    · exact ih (LineReader.sound_of_next sound next) (by rw [counted, same]) application member

/-- What the count of the source says at the end of a loop that has given so many lines to the transform and made so
many values. -/
inductive Reckons (source : LineReader) (given made : Nat) (last : LineReader) : Ending → Prop
  | exhausted (line : last.line = source.line + given) (all : made = given) : Reckons source given made last .exhausted
  | broken {breakdown : Breakdown} {answer : Except Fault (List UInt8)} {cause : Fault}
      (line : last.line = source.line + given + 1) (answered : source.handle.script[given]? = some answer)
      (unreadable : Unreadable source.encoding answer cause)
      (failure : breakdown.failure = ⟨.reading source.path (some last.line), some cause⟩) :
      Reckons source given made last (.broken breakdown)
  | interrupted {fault : Fault} : Reckons source given made last (.interrupted fault)
  | unparsed {text : String} {cause : Fault} : Reckons source given made last (.unparsed last.line text cause)
  | passed {cause : Fault} : Reckons source given made last (.passed cause)

theorem Reckons.cons {later : LineReader} {line : String} {given made : Nat} (sound : Sound source)
    (next : source.next = (.line line, later)) (reckons : Reckons later given made last ending) :
    Reckons source (given + 1) (made + 1) last ending := by
  obtain ⟨opened, rfl⟩ := LineReader.next_of_line sound next
  have shift : source.line + 1 + given = source.line + (given + 1) := by omega
  cases reckons with
  | exhausted counted all => exact .exhausted (counted.trans shift) (congrArg (· + 1) all)
  | broken counted answered unreadable failure =>
    rw [LineReader.script_read, List.getElem?_tail] at answered
    exact .broken (counted.trans (congrArg (· + 1) shift)) answered unreadable failure
  | interrupted => exact .interrupted
  | unparsed => exact .unparsed
  | passed => exact .passed

theorem Course.reckons (course : Course transform count source applications values ending last)
    (sound : Sound source) (unfailed : source.failure = none) (same : source.line = count) :
    Reckons source applications.length values.length last ending := by
  induction course with
  | exhausted next => exact .exhausted (LineReader.line_of_ended sound next) rfl
  | broken next =>
    obtain ⟨counted, answer, cause, given, unreadable, failure⟩ := LineReader.broken_of_next sound unfailed next
    rw [← counted] at failure
    exact .broken counted (by rw [← given]; simp [List.head?_eq_getElem?]) unreadable failure
  | interrupted next => exact .interrupted
  | unparsed next _ _ =>
    have counted := LineReader.line_of_line sound next
    rw [same] at counted
    rw [← counted]
    exact .unparsed
  | passed next _ _ => exact .passed
  | accepted next made rest ih =>
    have after := LineReader.sound_of_next sound next
    have counted := LineReader.line_of_line sound next
    refine .cons sound next (ih after ?_ (by rw [counted, same]))
    obtain ⟨-, rfl⟩ := LineReader.next_of_line sound next
    exact unfailed

end

/-- The source that was opened for an answer. -/
def Answer.source : Answer → Option LineReader
  | .ran run => run.source
  | .collected gathering => gathering.source

theorem source_toAnswer (occasion : Nat) (gathering : Gathering) (request : Request) :
    (gathering.toAnswer occasion request).source = gathering.source := by
  cases request <;> rfl

/-- What a path opens as, once the opening has been told. -/
def opens (pipeline : Pipeline) (journal : Journal) (path : String) : Except Fault LineReader :=
  pipeline.opener (pipeline.tell journal [pipeline.opening path]).files path pipeline.encoding

section

variable {pipeline : Pipeline} {journal : Journal} {request : Request}

theorem answer_of_refused (occasion : Nat) {fault : Fault}
    (refused : pipeline.opens journal request.path = .error fault) :
    (pipeline.answer journal occasion request).2.source = none ∧
      (pipeline.answer journal occasion request).2.result = .error fault := by
  have gathered := (gather_of_refused refused).1
  rw [answer_eq_toAnswer, source_toAnswer, result_toAnswer]
  simp only [gatherTold, gathered, and_self]

/-- Every answer comes from the course of a loop over the source that was opened, which is closed at its end. -/
theorem answer_of_opened (occasion : Nat) {source : LineReader} (sound : Sound source)
    (opened : pipeline.opens journal request.path = .ok source) :
    ∃ applications values ending last, Course pipeline.transform 0 source applications values ending last ∧
      (pipeline.answer journal occasion request).2.source = some last.close ∧
      (pipeline.answer journal occasion request).2.result = ending.result values := by
  obtain ⟨applications, ending, course, stopped⟩ := course_driveFrom pipeline.transform 0 sound (Nat.lt_succ_self _)
  rw [opens] at opened
  refine ⟨_, _, ending, _, course, ?_, ?_⟩
  · rw [answer_eq_toAnswer, source_toAnswer]
    simp only [gatherTold, gather, opened, drive]
  · rw [answer_eq_toAnswer, result_toAnswer]
    simp only [gatherTold, gather, opened, drive, Drive.result, stopped]
    rfl

end

/-- Every request, whatever the transform and the encoding, opens one source if any and takes it to the end of a loop.
Then the source is closed, its handle has been closed once, and it was read at most once for each answer it had and
once more. -/
theorem handle_released_once (pipeline : Pipeline) (journal : Journal) (occasion : Nat) (request : Request)
    (scripted : pipeline.opener.OpensScripted) :
    let answer := (pipeline.answer journal occasion request).2
    (∀ fault, pipeline.opens journal request.path = .error fault →
      answer.source = none ∧ answer.result = .error fault) ∧
    ∀ source, pipeline.opens journal request.path = .ok source →
      ∃ applications values ending last, Course pipeline.transform 0 source applications values ending last ∧
        answer.source = some last.close ∧ answer.result = ending.result values ∧
        last.close.isOpen = false ∧ last.close.handle.closes = 1 ∧
        last.close.handle.reads ≤ source.handle.reads + source.handle.script.length + 1 := by
  intro answer
  refine ⟨fun fault refused => answer_of_refused occasion refused, ?_⟩
  intro source opened
  obtain ⟨named, known, script, earlier, reached⟩ := scripted _ request.path pipeline.encoding source opened
  have sound : Sound source := by
    rw [reached]
    exact LineReader.Usage.sound_run (LineReader.sound_ofHandle named known script) earlier
  obtain ⟨applications, values, ending, last, course, left, result⟩ := answer_of_opened occasion sound opened
  refine ⟨applications, values, ending, last, course, left, result, LineReader.isOpen_close last, ?_, ?_⟩
  · exact (course.sound sound).closes_close
  · rw [LineReader.reads_close]
    exact course.reads_le sound

/-- In an encoding that nobody knows the first line is a fault that leaves the source open. It passes through the run,
and the handle is closed all the same. -/
theorem handle_released_once_unknown :
    let script : List (Except Fault (List UInt8)) := [.ok [0x61, 0x0A], .ok [0x62]]
    let opener : Opener := fun _ path encoding => .ok (.ofHandle path encoding (.ofScript script))
    let pipeline : Pipeline := ⟨none, "nope", "-", none, opener⟩
    let answer := (pipeline.answer ⟨⟨[], []⟩, [], ""⟩ 0 (.run "f")).2
    opener.OpensScripted ∧ answer.result = .error (Encoding.unknown "nope") ∧
      ∃ last, answer.source = some last ∧ last.isOpen = false ∧ last.handle.closes = 1 ∧ last.handle.reads ≤ 3 := by
  intro script opener pipeline answer
  have scripted : opener.OpensScripted := by
    rintro files path encoding source opened
    cases opened
    exact ⟨path, encoding, script, [], rfl⟩
  obtain ⟨applications, values, ending, last, course, left, result, closed, once, few⟩ :=
    (handle_released_once pipeline ⟨⟨[], []⟩, [], ""⟩ 0 (.run "f") scripted).2 _ rfl
  refine ⟨scripted, ?_, last.close, left, closed, once, few⟩
  have lost := LineReader.next_of_loses (LineReader.sound_ofHandle "f" "nope" script)
    ⟨rfl, rfl, by simp, Encoding.decode_of_unnamed (by decide) (by decide +kernel) (by decide), rfl⟩
  cases course with
  | interrupted next =>
    cases lost.symm.trans next
    exact result
  | exhausted next | broken next | unparsed next _ _ | passed next _ _ | accepted next _ _ =>
    cases lost.symm.trans next

/-- The numbers of a request over a new source. Every line is given to the transform under the number that the source
has counted. At the end of the lines that is the number of values. A failure to parse names the line that the source
has counted last, and so does a failure of the source, which comes right after the lines given to the transform:
there the handle could not be read or its bytes were no text. -/
theorem line_numbers_agree (pipeline : Pipeline) (journal : Journal) (occasion : Nat) (request : Request)
    (source : LineReader) (fresh : source.IsFresh) (opened : pipeline.opens journal request.path = .ok source) :
    let answer := (pipeline.answer journal occasion request).2
    ∃ applications values ending last, Course pipeline.transform 0 source applications values ending last ∧
      answer.source = some last.close ∧ answer.result = ending.result values ∧
      (∀ application ∈ applications, application.number = application.source.line) ∧
      (∀ found, answer.result = .ok found → last.close.line = found.length) ∧
      (∀ number line cause, ending = .unparsed number line cause → last.close.line = number) ∧
      ∀ breakdown, ending = .broken breakdown →
        last.close.line = applications.length + 1 ∧
        ∃ given cause, source.handle.script[applications.length]? = some given ∧
          Unreadable source.encoding given cause ∧
          breakdown.failure = ⟨.reading source.path (some last.close.line), some cause⟩ := by
  intro answer
  obtain ⟨named, known, script, rfl⟩ := fresh
  have sound := LineReader.sound_ofHandle named known script
  obtain ⟨applications, values, ending, last, course, left, result⟩ := answer_of_opened occasion sound opened
  have reckons := course.reckons sound rfl rfl
  refine ⟨applications, values, ending, last, course, left, result, course.number_eq sound rfl, ?_, ?_, ?_⟩
  · intro found ended
    obtain ⟨rfl, rfl⟩ := Ending.exhausted_of_result (result.symm.trans ended)
    cases reckons with
    | exhausted counted all => rw [LineReader.line_close, counted, all]; simp [LineReader.ofHandle]
  · rintro number line cause rfl
    cases reckons with
    | unparsed => exact LineReader.line_close last
  · rintro breakdown rfl
    cases reckons with
    | broken counted answered unreadable failure =>
      rw [LineReader.line_close]
      exact ⟨counted.trans (by simp [LineReader.ofHandle]), _, _, answered, unreadable, failure⟩

/-- A blank line and then a handle that cannot be read: the failure names the second line, which is as far as the
source has counted. -/
theorem line_numbers_agree_unread :
    let cause : Fault := .system [.int 5, .text "Input/output error"]
    let source : LineReader := .ofHandle "f" "utf-8" (.ofScript [.ok [0x0A], .error cause])
    let pipeline : Pipeline := ⟨none, "utf-8", "-", none, fun _ _ _ => .ok source⟩
    let answer := (pipeline.answer ⟨⟨[], []⟩, [], ""⟩ 0 (.collect "f")).2
    source.IsFresh ∧ ∃ last, answer.source = some last ∧ last.line = 2 ∧
      answer.result = .error (.failed (.reading "f" (some 2)) (some cause)) := by
  intro cause source pipeline answer
  have fresh : source.IsFresh := ⟨"f", "utf-8", _, rfl⟩
  have decoded : Encoding.decode "utf-8" (LineReader.stripLineBreak [0x0A]) = .ok "" := by
    simp [Encoding.decode, LineReader.stripLineBreak]
  have blank : source.next = (.line "", { source with handle := source.handle.read.2, line := 1 }) := by
    simp [source, LineReader.next, LineReader.ofHandle, Handle.ofScript, Handle.read, LineReader.receive, decoded]
  obtain ⟨applications, values, ending, last, course, left, result, numbered, -, -, named⟩ :=
    line_numbers_agree pipeline ⟨⟨[], []⟩, [], ""⟩ 0 (.collect "f") source fresh rfl
  refine ⟨fresh, last.close, left, ?_⟩
  cases course with
  | exhausted next | broken next | interrupted next => cases blank.symm.trans next
  | unparsed next made _ | passed next made _ => cases made
  | accepted next made rest =>
    cases blank.symm.trans next
    cases rest with
    | broken failed =>
      cases failed
      exact ⟨(named _ rfl).1, result⟩
    | exhausted other | interrupted other | unparsed other _ _ | passed other _ _ | accepted other _ _ => cases other

end Pipeline

end Linewise
