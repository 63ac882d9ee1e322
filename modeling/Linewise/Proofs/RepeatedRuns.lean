import Linewise.Proofs.Service

/-! Runs of one pipeline over a file that stays as it is. They come to the same values, or to failures that are alike
but for the occasion. Since failures are told apart by that, outcomes that succeeded are equal and outcomes that failed
are not. -/
namespace Linewise

theorem Value.agrees_self (value : Value) : value.agrees value = true := by
  unfold agrees
  split
  next m n left right => simpa using Option.some.inj (left.symm.trans right)
  next => simp

theorem Value.allAgree_self (values : List Value) : allAgree values values = true := by
  induction values with
  | nil => rfl
  | cons value rest ih => simp [allAgree, agrees_self, ih]

namespace Outcome

theorem agrees_ofValues (values : List Value) : (ofValues values).agrees (ofValues values) = true := by
  simp [agrees, ofValues, Value.allAgree_self]

theorem agrees_ofFailure_iff (a b : Occurrence) :
    (ofFailure a).agrees (ofFailure b) = true ↔ a.occasion = b.occasion := by
  simp [agrees, ofFailure, Value.allAgree]

end Outcome

namespace Pipeline

/-- A pipeline of which no part is supplied from outside: it opens files, and gives their lines as they are or the
integers that the lines hold. -/
structure IsBuiltIn (pipeline : Pipeline) : Prop where
  opener : pipeline.opener = LineReader.openFile
  transform : ∀ transform, pipeline.transform = some transform → ∃ type trimmed, transform = .integer type trimmed

/-- What a run finds at its path. It has told of the opening by then. -/
def found (pipeline : Pipeline) (journal : Journal) (path : String) : Except Fault (List UInt8) :=
  (pipeline.tell journal [pipeline.opening path]).files.read path

/-- Two outcomes that come of one gathering on different occasions. -/
theorem toRun_alike (gathering : Gathering) {first second : Nat} (apart : first ≠ second) :
    (gathering.toRun first).outcome.map Outcome.toExcept = (gathering.toRun second).outcome.map Outcome.toExcept ∧
      ∀ a b, (gathering.toRun first).outcome = .ok a → (gathering.toRun second).outcome = .ok b →
        a.values = b.values ∧ (a.agrees b = true ↔ a.isOk = true) := by
  unfold Gathering.toRun
  cases gathering.result with
  | ok values =>
    refine ⟨rfl, ?_⟩
    rintro a b ⟨⟩ ⟨⟩
    exact ⟨rfl, iff_of_true (Outcome.agrees_ofValues values) rfl⟩
  | error fault =>
    cases accounted : (Failure.ofFault? fault).isSome with
    | false =>
      refine ⟨by simp [accounted, Except.map], ?_⟩
      intro a b returned
      simp [accounted] at returned
    | true =>
      simp only [accounted, if_true]
      refine ⟨rfl, ?_⟩
      rintro a b ⟨⟩ ⟨⟩
      refine ⟨rfl, iff_of_false ?_ (by simp [Outcome.isOk, Outcome.ofFailure])⟩
      rw [Outcome.agrees_ofFailure_iff]
      exact apart

/-- The answer to a run among other steps is what it gathers from the files as they are then. -/
theorem serve_run {pipeline : Pipeline} {journal : Journal} {steps : List Step} {i : Nat} {path : String}
    (asked : steps[i]? = some (.request (.run path))) :
    (pipeline.serve journal steps).2[i]? =
      some (some (.ran ((pipeline.gatherTold (pipeline.serve journal (steps.take i)).1 path).2.toRun i))) := by
  rw [serve, Journal.getElem?_through, asked, Nat.zero_add, Option.map_some]
  simp only [step, answer_eq_toAnswer]
  rfl

/-- Two runs of one pipeline, whatever else it was asked for and whatever became of other files, that find the same at
their path. Both return an outcome or neither does. The outcomes have the same values or the same failure, and are equal
just if they succeeded. -/
theorem repeated_runs_agree_iff_ok (pipeline : Pipeline) (builtIn : pipeline.IsBuiltIn) (journal : Journal)
    (steps : List Step) (i j : Nat) (path : String) (apart : i ≠ j)
    (first : steps[i]? = some (.request (.run path))) (second : steps[j]? = some (.request (.run path)))
    (unmodified : pipeline.found (pipeline.serve journal (steps.take i)).1 path =
      pipeline.found (pipeline.serve journal (steps.take j)).1 path) :
    let answers := (pipeline.serve journal steps).2
    ∃ earlier later : Run, answers[i]? = some (some (.ran earlier)) ∧ answers[j]? = some (some (.ran later)) ∧
      earlier.outcome.map Outcome.toExcept = later.outcome.map Outcome.toExcept ∧
      ∀ a b, earlier.outcome = .ok a → later.outcome = .ok b →
        a.values = b.values ∧ (a.agrees b = true ↔ a.isOk = true) := by
  have isLocal : pipeline.opener.IsLocal := by
    rw [builtIn.opener]
    exact LineReader.openFile_isLocal
  have same : (pipeline.gatherTold (pipeline.serve journal (steps.take i)).1 path).2 =
      (pipeline.gatherTold (pipeline.serve journal (steps.take j)).1 path).2 := gather_of_read_eq isLocal unmodified
  refine ⟨_, _, serve_run first, serve_run second, ?_⟩
  rw [same]
  exact toRun_alike _ apart

/-- A file is read twice, with another written in between. -/
theorem repeated_runs_agree_iff_ok_numbers :
    let journal : Journal := ⟨⟨[(["f"], .file [0x37, 0x0A])], []⟩, [], "now"⟩
    let pipeline : Pipeline := ⟨some (.integer .u64 true), "utf-8", "-", none, LineReader.openFile⟩
    let steps : List Step := [.request (.run "f"), .write "g" [0x78], .request (.run "f")]
    let answers := (pipeline.serve journal steps).2
    pipeline.IsBuiltIn ∧
      ∃ earlier later a b, answers[0]? = some (some (.ran earlier)) ∧ answers[2]? = some (some (.ran later)) ∧
        earlier.outcome = .ok a ∧ later.outcome = .ok b ∧ a.values = [.int 7] ∧ a.agrees b = true := by
  intro journal pipeline steps answers
  have builtIn : pipeline.IsBuiltIn := by
    refine ⟨rfl, ?_⟩
    rintro transform ⟨⟩
    exact ⟨_, _, rfl⟩
  have read : pipeline.found (pipeline.serve journal (steps.take 0)).1 "f" = .ok [0x37, 0x0A] :=
    eq_ok_of_toOption (by decide +kernel)
  have readAgain : pipeline.found (pipeline.serve journal (steps.take 2)).1 "f" = .ok [0x37, 0x0A] :=
    eq_ok_of_toOption (by decide +kernel)
  obtain ⟨earlier, later, atFirst, atSecond, alike, equal⟩ :=
    repeated_runs_agree_iff_ok pipeline builtIn journal steps 0 2 "f" (by decide) rfl rfl (read.trans readAgain.symm)
  have collected : (pipeline.gatherTold (pipeline.serve journal (steps.take 0)).1 "f").2.result = .ok [.int 7] :=
    eq_ok_of_toOption (by decide +kernel)
  have returned : earlier.outcome = .ok (.ofValues [.int 7]) := by
    cases atFirst.symm.trans (serve_run rfl)
    simp only [Gathering.toRun, collected]
  rw [returned] at alike
  cases again : later.outcome with
  | error fault =>
    rw [again] at alike
    cases alike
  | ok b => exact ⟨builtIn, _, _, _, b, atFirst, atSecond, returned, again, rfl, (equal _ b returned again).2.mpr rfl⟩

/-- Two runs over a file that is not there both fail, and their outcomes are not equal. -/
theorem failed_runs_differ :
    let journal : Journal := ⟨⟨[], []⟩, [], "now"⟩
    let pipeline : Pipeline := ⟨none, "utf-8", "-", none, LineReader.openFile⟩
    let steps : List Step := [.request (.run "no"), .request (.run "no")]
    pipeline.IsBuiltIn ∧
      pipeline.found journal "no" = pipeline.found (pipeline.serve journal (steps.take 1)).1 "no" ∧
      ∃ earlier later a b, (pipeline.serve journal steps).2 = [some (.ran earlier), some (.ran later)] ∧
        earlier.outcome = .ok a ∧ later.outcome = .ok b ∧ a.agrees b = false := by
  intro journal pipeline steps
  have failed (n : Nat) : ∃ fault,
      ((pipeline.gather journal.files "no").toRun n).outcome = .ok (.ofFailure ⟨n, fault⟩) := ⟨_, rfl⟩
  obtain ⟨fault, first⟩ := failed 0
  obtain ⟨fault', second⟩ := failed 1
  exact ⟨⟨rfl, by simp [pipeline]⟩, rfl, _, _, _, _, rfl, first, second, rfl⟩

end Pipeline

end Linewise
