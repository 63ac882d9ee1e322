import Linewise.Proofs.PlainText
import Mathlib.Data.List.Infix

/-! Removing control sequences. A text is passed over from left to right: a sequence that starts here goes as a whole, and
any other character stays. So a text without a sequence is left alone and no other is, and since none goes beyond a line
feed, the lines of a text can be printed one by one. -/
namespace Linewise.Text

/-- A control sequence: `ESC [`, parameters, a letter. -/
inductive IsSequence : List Char → Prop
  | mk {parameters : List Char} {final : Char} (inside : ∀ c ∈ parameters, isParameter c = true)
      (letter : final.isAlpha = true) : IsSequence ('\x1b' :: '[' :: (parameters ++ [final]))

/-- A text in which no control sequence stands. -/
def Unescaped (text : List Char) : Prop := ∀ s, IsSequence s → ¬ s <:+: text

theorem toNat_of_isParameter {c : Char} (parameter : isParameter c = true) : 0x30 ≤ c.toNat ∧ c.toNat < 0x40 := by
  simp only [isParameter, Bool.or_eq_true, beq_iff_eq] at parameter
  rcases parameter with (rfl | rfl) | digit
  · decide
  · decide
  · simp only [Char.isDigit, Bool.and_eq_true, decide_eq_true_eq] at digit
    have lower : 0x30 ≤ c.toNat := digit.1
    have upper : c.toNat ≤ 0x39 := digit.2
    omega

theorem toNat_of_isAlpha {c : Char} (letter : c.isAlpha = true) : 0x41 ≤ c.toNat ∧ c.toNat < 0x7B := by
  rcases Bool.or_eq_true_iff.mp letter with upper | lower
  · have first : 0x41 ≤ c.toNat := (of_decide_eq_true upper).1
    have last : c.toNat ≤ 0x5A := (of_decide_eq_true upper).2
    omega
  · have first : 0x61 ≤ c.toNat := of_decide_eq_true (Bool.and_eq_true_iff.mp lower).1
    have last : c.toNat ≤ 0x7A := of_decide_eq_true (Bool.and_eq_true_iff.mp lower).2
    omega

theorem not_isParameter_of_isAlpha {c : Char} (letter : c.isAlpha = true) : ¬ isParameter c = true := by
  intro parameter
  have high := toNat_of_isAlpha letter
  have low := toNat_of_isParameter parameter
  omega

/-- A sequence is found where one starts, and ends at its letter. -/
theorem afterSequence?_eq_some_iff {text after : List Char} :
    afterSequence? text = some after ↔ ∃ s, IsSequence s ∧ text = s ++ after := by
  constructor
  · intro found
    unfold afterSequence? at found
    split at found
    next rest =>
      split at found
      next final others passed =>
        split at found
        next letter =>
          cases found
          have inside : ∀ c ∈ rest.takeWhile isParameter, isParameter c = true := fun c => List.mem_takeWhile_imp
          refine ⟨_, .mk inside letter, ?_⟩
          have whole := List.takeWhile_append_dropWhile (p := isParameter) (l := rest)
          rw [passed] at whole
          simp [whole]
        next => cases found
      next => cases found
    next => cases found
  · rintro ⟨_, @⟨parameters, final, inside, letter⟩, rfl⟩
    have passed : (parameters ++ [final] ++ after).dropWhile isParameter = final :: after := by
      rw [List.append_assoc, List.dropWhile_append_of_pos inside]
      simp [not_isParameter_of_isAlpha letter]
    simp only [afterSequence?, List.cons_append, passed, letter, if_true]

theorem IsSequence.two_le_length {s : List Char} (sequence : IsSequence s) : 2 ≤ s.length := by
  cases sequence
  simp

theorem stripFrom_eq_drop (skip : Nat) (text : List Char) : stripFrom skip text = stripFrom 0 (text.drop skip) := by
  induction text generalizing skip with
  | nil => cases skip <;> rfl
  | cons c rest ih =>
    cases skip with
    | zero => rfl
    | succ skip => rw [stripFrom, List.drop_succ_cons, ih]

/-- A sequence goes as a whole. -/
theorem strip_sequence {s : List Char} (sequence : IsSequence s) (after : List Char) :
    stripFrom 0 (s ++ after) = stripFrom 0 after := by
  have found : afterSequence? (s ++ after) = some after := afterSequence?_eq_some_iff.mpr ⟨s, sequence, rfl⟩
  cases s with
  | nil => cases sequence
  | cons c rest =>
    rw [List.cons_append] at found ⊢
    rw [stripFrom, found]
    simp only
    rw [stripFrom_eq_drop]
    simp

/-- A character that no sequence starts with stays. -/
theorem strip_cons {c : Char} {rest : List Char} (other : afterSequence? (c :: rest) = none) :
    stripFrom 0 (c :: rest) = c :: stripFrom 0 rest := by
  rw [stripFrom, other]

/-- Every text is empty, or starts with a sequence, or starts with a character that stays. -/
theorem sequence_induction {motive : List Char → Prop} (empty : motive [])
    (sequence : ∀ s after, IsSequence s → motive after → motive (s ++ after))
    (other : ∀ c rest, afterSequence? (c :: rest) = none → motive rest → motive (c :: rest)) (text : List Char) :
    motive text := by
  induction size : text.length using Nat.strongRecOn generalizing text with
  | _ _ ih =>
    cases text with
    | nil => exact empty
    | cons c rest =>
      cases found : afterSequence? (c :: rest) with
      | none => exact other c rest found (ih _ (by simp [← size]) rest rfl)
      | some after =>
        obtain ⟨s, isSequence, cut⟩ := afterSequence?_eq_some_iff.mp found
        have long := isSequence.two_le_length
        have shorter : after.length < (s ++ after).length := by simp; omega
        rw [cut] at size ⊢
        exact sequence s after isSequence (ih _ (size ▸ shorter) after rfl)

theorem length_strip_le (text : List Char) : (stripFrom 0 text).length ≤ text.length := by
  induction text using sequence_induction with
  | empty => exact Nat.le_refl _
  | sequence s after isSequence ih =>
    rw [strip_sequence isSequence, List.length_append]
    omega
  | other c rest found ih =>
    rw [strip_cons found]
    simpa using ih

/-- A text is left alone just if no sequence stands in it. -/
theorem strip_eq_self_iff {text : List Char} : stripFrom 0 text = text ↔ Unescaped text := by
  induction text using sequence_induction with
  | empty =>
    refine iff_of_true rfl ?_
    intro s isSequence inside
    cases List.infix_nil.mp inside
    cases isSequence
  | sequence s after isSequence ih =>
    refine iff_of_false ?_ fun unescaped => unescaped s isSequence (List.prefix_append s after).isInfix
    intro same
    have short := length_strip_le after
    have long := isSequence.two_le_length
    rw [strip_sequence isSequence] at same
    rw [same, List.length_append] at short
    omega
  | other c rest found ih =>
    rw [strip_cons found, List.cons.injEq, ih]
    simp only [true_and]
    constructor
    · intro unescaped s isSequence inside
      rcases List.infix_cons_iff.mp inside with ⟨after, start⟩ | later
      · have starts := afterSequence?_eq_some_iff.mpr ⟨s, isSequence, start.symm⟩
        rw [found] at starts
        cases starts
      · exact unescaped s isSequence later
    · intro unescaped s isSequence inside
      exact unescaped s isSequence (inside.trans (List.suffix_cons c rest).isInfix)

theorem IsSequence.char {s : List Char} (isSequence : IsSequence s) {c : Char} (member : c ∈ s) :
    c = '\x1b' ∨ 0x30 ≤ c.toNat ∧ c.toNat < 0x7B := by
  cases isSequence with
  | @mk parameters final inside letter =>
    simp only [List.mem_cons, List.mem_append, List.not_mem_nil, or_false] at member
    rcases member with rfl | rfl | parameter | rfl
    · exact .inl rfl
    · exact .inr (by decide)
    · have bounds := toNat_of_isParameter (inside c parameter)
      omega
    · have bounds := toNat_of_isAlpha letter
      omega

/-- Line breaks and the other control characters below `ESC` are in no sequence. -/
theorem IsSequence.not_mem {s : List Char} (isSequence : IsSequence s) {c : Char} (control : c.toNat < 0x1B) : c ∉ s := by
  intro member
  rcases isSequence.char member with rfl | bounds
  · exact absurd control (by decide)
  · omega

section

variable {c : Char} (control : c.toNat < 0x1B)

include control

/-- A sequence that starts before such a character ends before it. -/
theorem IsSequence.within_line {s line rest after : List Char} (isSequence : IsSequence s)
    (cut : line ++ c :: rest = s ++ after) : ∃ later, line = s ++ later := by
  rcases List.append_eq_append_iff.mp cut with ⟨more, whole, feed⟩ | ⟨later, same, -⟩
  · cases more with
    | nil => exact ⟨[], by simp [whole]⟩
    | cons other more =>
      obtain ⟨rfl, -⟩ := List.cons.inj feed
      exact absurd (by simp [whole]) (isSequence.not_mem control)
  · exact ⟨later, same⟩

/-- What stands before such a character and what stands after it are stripped apart. -/
theorem strip_break (line rest : List Char) :
    stripFrom 0 (line ++ c :: rest) = stripFrom 0 line ++ c :: stripFrom 0 rest := by
  induction line using sequence_induction with
  | empty =>
    have other : c ≠ '\x1b' := by
      rintro rfl
      exact absurd control (by decide)
    exact strip_cons (afterSequence?_of_ne other rest)
  | sequence s after isSequence ih =>
    rw [List.append_assoc, strip_sequence isSequence, strip_sequence isSequence, ih]
  | other first others found ih =>
    have still : afterSequence? (first :: others ++ c :: rest) = none := by
      rw [Option.eq_none_iff_forall_ne_some]
      intro after starts
      obtain ⟨s, isSequence, cut⟩ := afterSequence?_eq_some_iff.mp starts
      obtain ⟨inside, whole⟩ := isSequence.within_line control cut
      have starts := afterSequence?_eq_some_iff.mpr ⟨s, isSequence, whole⟩
      rw [found] at starts
      cases starts
    rw [List.cons_append] at still ⊢
    rw [strip_cons still, strip_cons found, ih]
    rfl

theorem unescaped_break {line rest : List Char} : Unescaped (line ++ c :: rest) ↔ Unescaped line ∧ Unescaped rest := by
  rw [← strip_eq_self_iff, ← strip_eq_self_iff, ← strip_eq_self_iff, strip_break control]
  constructor
  · intro same
    -- Neither part gets longer, so neither gets shorter.
    have early := length_strip_le line
    have late := length_strip_le rest
    have sizes := congrArg List.length same
    simp only [List.length_append, List.length_cons] at sizes
    obtain ⟨first, second⟩ := List.append_inj same (by omega)
    exact ⟨first, (List.cons.inj second).2⟩
  · rintro ⟨first, second⟩
    rw [first, second]

end

theorem unescaped_nil : Unescaped [] := strip_eq_self_iff.mp rfl

end Linewise.Text
