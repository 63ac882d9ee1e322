import Linewise.Proofs.Decoding

/-! Encodings that spell characters one after another and ASCII characters as themselves. Whatever the spellings
of the others are, a byte below `80` then stands for a character of its own wherever it occurs: a text can be
cut there before it is read. -/
namespace Linewise.Text

/-- A reader that takes `spells` for its characters: it goes from one to the next, and stops where none begins.
Positions are counted from the one it is given. -/
structure Spelling (spells : List UInt8 → Char → Prop) (scan : Nat → List UInt8 → Except Nat (List Char)) :
    Prop where
  empty : ∀ pos, scan pos [] = .ok []
  char : ∀ pos {block c} rest, spells block c → scan pos (block ++ rest) = (c :: ·) <$> scan (pos + block.length) rest
  broken : ∀ pos {bytes}, bytes ≠ [] → (∀ block c rest, spells block c → bytes ≠ block ++ rest) →
    scan pos bytes = .error pos
  filled : ∀ {block c}, spells block c → block ≠ []
  tails : ∀ {a block c}, spells (a :: block) c → ∀ b ∈ block, ¬ b < 0x80
  ascii : ∀ {b : UInt8}, b < 0x80 → spells [b] (Char.ofNat b.toNat)
  plain : ∀ {block c}, spells block c → c.toNat < 0x80 → ∃ b : UInt8, block = [b] ∧ b.toNat = c.toNat

namespace Spelling

variable {spells : List UInt8 → Char → Prop} {scan : Nat → List UInt8 → Except Nat (List Char)}

/-- Bytes in which no character begins. -/
def Broken (spells : List UInt8 → Char → Prop) (bytes : List UInt8) : Prop :=
  bytes ≠ [] ∧ ∀ block c rest, spells block c → bytes ≠ block ++ rest

/-- Bytes are none, a character and bytes after it, or broken. -/
theorem bytes_induction (spelling : Spelling spells scan) {motive : List UInt8 → Prop} (empty : motive [])
    (char : ∀ block c rest, spells block c → motive rest → motive (block ++ rest))
    (broken : ∀ bytes, Broken spells bytes → motive bytes) (bytes : List UInt8) : motive bytes := by
  induction size : bytes.length using Nat.strongRecOn generalizing bytes with
  | _ _ ih =>
    by_cases none : bytes = []
    · exact none ▸ empty
    by_cases starts : ∃ block c rest, spells block c ∧ bytes = block ++ rest
    · obtain ⟨block, c, rest, spelled, rfl⟩ := starts
      have some := List.length_pos_iff.mpr (spelling.filled spelled)
      have shorter : rest.length < (block ++ rest).length := by simp; omega
      exact char block c rest spelled (ih _ (size ▸ shorter) rest rfl)
    · exact broken bytes ⟨none, fun block c rest spelled equal => starts ⟨block, c, rest, spelled, equal⟩⟩

/-- What is broken stays so when more bytes follow a plain one: no character reaches across it. -/
theorem broken_append (spelling : Spelling spells scan) {bytes : List UInt8} (broken : Broken spells bytes)
    {b : UInt8} (low : b < 0x80) (after : List UInt8) : Broken spells (bytes ++ b :: after) := by
  refine ⟨by simp, ?_⟩
  intro block c rest spelled equal
  rcases List.append_eq_append_iff.mp equal with ⟨more, across, begins⟩ | ⟨more, inside, -⟩
  · cases more with
    | nil => exact broken.2 block c [] spelled (by simpa using across.symm)
    | cons first more =>
      obtain ⟨start, others, rfl⟩ := List.exists_cons_of_ne_nil broken.1
      obtain ⟨rfl, -⟩ := List.cons_eq_cons.mp begins
      rw [across, List.cons_append] at spelled
      exact spelling.tails spelled b (by simp) low
  · exact broken.2 block c more spelled inside

theorem scan_broken (spelling : Spelling spells scan) (pos : Nat) {bytes : List UInt8}
    (broken : Broken spells bytes) : scan pos bytes = .error pos :=
  spelling.broken pos broken.1 broken.2

theorem scan_ascii (spelling : Spelling spells scan) (pos : Nat) {b : UInt8} (low : b < 0x80) (after : List UInt8) :
    scan pos (b :: after) = (Char.ofNat b.toNat :: ·) <$> scan (pos + 1) after :=
  spelling.char pos after (spelling.ascii low)

/-- Where reading starts moves the place of a flaw and nothing else. -/
theorem scan_shift (spelling : Spelling spells scan) (pos offset : Nat) (bytes : List UInt8) :
    scan (pos + offset) bytes = (scan pos bytes).mapError (· + offset) := by
  induction bytes using spelling.bytes_induction generalizing pos with
  | empty =>
    rw [spelling.empty, spelling.empty]
    rfl
  | char block c rest spelled ih =>
    rw [spelling.char _ _ spelled, spelling.char _ _ spelled, Nat.add_right_comm, ih]
    cases scan (pos + block.length) rest <;> rfl
  | broken bytes broken =>
    rw [spelling.scan_broken _ broken, spelling.scan_broken _ broken]
    rfl

/-- Before a plain byte a text can be cut: its parts are read one after the other. -/
theorem scan_split (spelling : Spelling spells scan) (pos : Nat) (before : List UInt8) {b : UInt8} (low : b < 0x80)
    (after : List UInt8) :
    scan pos (before ++ b :: after) = do
      let early ← scan pos before
      let late ← scan (pos + before.length + 1) after
      return early ++ Char.ofNat b.toNat :: late := by
  induction before using spelling.bytes_induction generalizing pos with
  | empty =>
    rw [List.nil_append, spelling.scan_ascii pos low, spelling.empty]
    cases scan (pos + 1) after <;> rfl
  | char block c rest spelled ih =>
    have place : pos + block.length + rest.length = pos + (block ++ rest).length := by simp; omega
    rw [List.append_assoc, spelling.char _ _ spelled, spelling.char _ _ spelled, ih, place]
    cases scan (pos + block.length) rest with
    | error _ => rfl
    | ok early => cases scan (pos + (block ++ rest).length + 1) after <;> rfl
  | broken bytes broken =>
    rw [spelling.scan_broken pos (spelling.broken_append broken low after), spelling.scan_broken pos broken]
    rfl

theorem map_cons_eq_ok {c : Char} {result : Except Nat (List Char)} {text : List Char}
    (read : (c :: ·) <$> result = .ok text) : ∃ rest, result = .ok rest ∧ text = c :: rest := by
  cases result with
  | error _ => cases read
  | ok rest => cases read; exact ⟨rest, rfl, rfl⟩

/-- A plain character in a text comes from its byte. -/
theorem exists_byte (spelling : Spelling spells scan) {pos : Nat} {bytes : List UInt8} {text : List Char}
    (read : scan pos bytes = .ok text) {c : Char} (member : c ∈ text) (low : c.toNat < 0x80) :
    ∃ b ∈ bytes, b.toNat = c.toNat := by
  induction bytes using spelling.bytes_induction generalizing pos text with
  | empty =>
    rw [spelling.empty] at read
    cases read
    simp at member
  | char block first rest spelled ih =>
    rw [spelling.char _ _ spelled] at read
    obtain ⟨later, readLater, rfl⟩ := map_cons_eq_ok read
    rcases List.mem_cons.mp member with rfl | member
    · obtain ⟨b, rfl, value⟩ := spelling.plain spelled low
      exact ⟨b, by simp, value⟩
    · obtain ⟨b, inside, value⟩ := ih readLater member
      exact ⟨b, by simp [inside], value⟩
  | broken bytes broken =>
    rw [spelling.scan_broken _ broken] at read
    cases read

/-- Bytes are read as some text or refused at one of them. -/
theorem flaw_inside (spelling : Spelling spells scan) {pos flaw : Nat} {bytes : List UInt8}
    (refused : scan pos bytes = .error flaw) : pos ≤ flaw ∧ flaw < pos + bytes.length := by
  induction bytes using spelling.bytes_induction generalizing pos with
  | empty =>
    rw [spelling.empty] at refused
    cases refused
  | char block first rest spelled ih =>
    rw [spelling.char _ _ spelled] at refused
    have later : scan (pos + block.length) rest = .error flaw := by
      cases result : scan (pos + block.length) rest with
      | ok text => rw [result] at refused; cases refused
      | error _ => rw [result] at refused; cases refused; rfl
    obtain ⟨lower, upper⟩ := ih later
    simp only [List.length_append]
    omega
  | broken bytes broken =>
    rw [spelling.scan_broken _ broken] at refused
    cases refused
    have some := List.length_pos_iff.mpr broken.1
    omega

theorem eq_nil_of_scan_nil (spelling : Spelling spells scan) {pos : Nat} {bytes : List UInt8}
    (read : scan pos bytes = .ok []) : bytes = [] := by
  induction bytes using spelling.bytes_induction generalizing pos with
  | empty => rfl
  | char block first rest spelled ih =>
    rw [spelling.char _ _ spelled] at read
    obtain ⟨later, readLater, impossible⟩ := map_cons_eq_ok read
    cases impossible
  | broken bytes broken =>
    rw [spelling.scan_broken _ broken] at read
    cases read

/-- A text that ends in a plain character is read from bytes that end in its byte. -/
theorem getLast_of_scan (spelling : Spelling spells scan) {pos : Nat} {bytes : List UInt8} {text : List Char}
    (read : scan pos bytes = .ok text) {c : Char} (last : text.getLast? = some c) (low : c.toNat < 0x80) :
    ∃ b, bytes.getLast? = some b ∧ b.toNat = c.toNat := by
  induction bytes using spelling.bytes_induction generalizing pos text with
  | empty =>
    rw [spelling.empty] at read
    cases read
    simp at last
  | char block first rest spelled ih =>
    rw [spelling.char _ _ spelled] at read
    obtain ⟨later, readLater, rfl⟩ := map_cons_eq_ok read
    cases later with
    | nil =>
      obtain rfl : first = c := by simpa using last
      obtain ⟨b, rfl, value⟩ := spelling.plain spelled low
      exact ⟨b, by simp [spelling.eq_nil_of_scan_nil readLater], value⟩
    | cons second later =>
      obtain ⟨b, ends, value⟩ := ih readLater (by simpa using last)
      exact ⟨b, by simp [ends], value⟩
  | broken bytes broken =>
    rw [spelling.scan_broken _ broken] at read
    cases read

end Spelling

end Linewise.Text
