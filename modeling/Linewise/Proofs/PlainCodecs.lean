import Linewise.Proofs.Spelling

/-! The encodings that spell ASCII characters as themselves: UTF-8, and the tables of one byte a character whose
lower half is ASCII. -/
namespace Linewise.Text

theorem toNat_ofNat_of_valid {n : Nat} (valid : n.isValidChar) : (Char.ofNat n).toNat = n := by
  rw [Char.ofNat, dif_pos valid]
  rfl

theorem toNat_ofNat_byte (b : UInt8) : (Char.ofNat b.toNat).toNat = b.toNat := by
  have := b.toNat_lt
  exact toNat_ofNat_of_valid (.inl (by omega))

/-- One byte a character, read off a table that agrees with ASCII below `80` and only there. -/
theorem spelling_decodeTable {char? : UInt8 → Option Char} (reason : String)
    (lower : ∀ b : UInt8, b < 0x80 → char? b = some (Char.ofNat b.toNat))
    (upper : ∀ (b : UInt8) (c : Char), char? b = some c → c.toNat < 0x80 → b.toNat = c.toNat) :
    Spelling (fun block c => ∃ b, block = [b] ∧ char? b = some c)
      (fun pos bytes => (Codec.decodeTable char? reason pos bytes).mapError Flaw.start) where
  empty _ := rfl
  char := by
    rintro pos _ c rest ⟨b, rfl, found⟩
    simp only [List.singleton_append, Codec.decodeTable, found]
    cases Codec.decodeTable char? reason (pos + 1) rest <;> rfl
  broken := by
    intro pos bytes some none
    obtain ⟨b, rest, rfl⟩ := List.exists_cons_of_ne_nil some
    cases found : char? b with
    | none =>
      simp only [Codec.decodeTable, found]
      rfl
    | some c => exact absurd rfl (none [b] c rest ⟨b, rfl, found⟩)
  filled := by
    rintro _ c ⟨b, rfl, -⟩
    simp
  tails := by
    rintro a block c ⟨b, single, -⟩
    simp [(List.cons_eq_cons.mp single).2]
  ascii low := ⟨_, rfl, lower _ low⟩
  plain := by
    rintro _ c ⟨b, rfl, found⟩ low
    exact ⟨b, rfl, upper b c found low⟩

theorem low_of_asciiChar? (b : UInt8) (c : Char) (found : Codec.asciiChar? b = some c) (_low : c.toNat < 0x80) :
    b.toNat = c.toNat := by
  unfold Codec.asciiChar? at found
  split at found
  · cases found; exact (toNat_ofNat_byte b).symm
  · cases found

theorem low_of_latin1Char? (b : UInt8) (c : Char) (found : Codec.latin1Char? b = some c) (_low : c.toNat < 0x80) :
    b.toNat = c.toNat := by
  cases found
  exact (toNat_ofNat_byte b).symm

namespace CodePage

/-- In a table without codes below `80` no entry is plain. -/
theorem high_of_entry {table : List Nat} (high : ∀ code ∈ table, code = 0 ∨ 0x80 ≤ code ∧ code < 0xD800)
    {place : Nat} {c : Char} (found : entry table place = some c) : 0x80 ≤ c.toNat := by
  unfold entry at found
  split at found
  · cases found
  · cases found
  next code notZero there =>
    cases found
    rcases high code (List.mem_of_getElem? there) with zero | ⟨lower, upper⟩
    · exact absurd zero notZero
    · rwa [toNat_ofNat_of_valid (.inl upper)]

theorem low_of_upperHalf {table : List Nat} (high : ∀ code ∈ table, code = 0 ∨ 0x80 ≤ code ∧ code < 0xD800)
    (b : UInt8) (c : Char) (found : upperHalf table b = some c) (low : c.toNat < 0x80) : b.toNat = c.toNat := by
  unfold upperHalf at found
  split at found
  · cases found; exact (toNat_ofNat_byte b).symm
  · have := high_of_entry high found
    omega

/-- The pages whose lower half is ASCII. -/
def agreeing : List CodePage := [cp1252, cp1251, koi8r, iso8859p15, cp437]

theorem exists_upperHalf {page : CodePage} (agrees : page ∈ agreeing) :
    ∃ table : List Nat, page.char? = upperHalf table ∧ ∀ code ∈ table, code = 0 ∨ 0x80 ≤ code ∧ code < 0xD800 := by
  cases page with
  | cp037 | cp500 => simp [agreeing] at agrees
  | cp437 => exact ⟨cp437High, rfl, by decide +kernel⟩
  | cp1251 => exact ⟨cp1251High, rfl, by decide +kernel⟩
  | cp1252 => exact ⟨cp1252High, rfl, by decide +kernel⟩
  | iso8859p15 => exact ⟨iso8859p15High, rfl, by decide +kernel⟩
  | koi8r => exact ⟨koi8rHigh, rfl, by decide +kernel⟩

end CodePage

namespace Utf8

/-- The characters of UTF-8 in their shortest form, surrogates left out. -/
inductive Spells : List UInt8 → Char → Prop
  | one {a : UInt8} (lead : a < 0x80) : Spells [a] (Char.ofNat a.toNat)
  | two {a b : UInt8} (least : ¬ a < 0xC2) (lead : a < 0xE0) (second : isTail b = true) : Spells [a, b] (ofTwo a b)
  | three {a b c : UInt8} (least : ¬ a < 0xE0) (lead : a < 0xF0) (second : secondOfThree a b = true)
      (third : isTail c = true) : Spells [a, b, c] (ofThree a b c)
  | four {a b c d : UInt8} (least : ¬ a < 0xF0) (lead : a < 0xF5) (second : secondOfFour a b = true)
      (third : isTail c = true) (fourth : isTail d = true) : Spells [a, b, c, d] (ofFour a b c d)

theorem not_low_of_isTail {b : UInt8} (tail : isTail b = true) : ¬ b < 0x80 := by
  simp only [isTail, Bool.and_eq_true, decide_eq_true_eq] at tail
  simpa using tail.1

theorem decodeFrom_broken (pos : Nat) {bytes : List UInt8} (some : bytes ≠ [])
    (none : ∀ block c rest, Spells block c → bytes ≠ block ++ rest) :
    (decodeFrom pos bytes).mapError Flaw.start = .error pos := by
  fun_cases decodeFrom pos bytes with
  | case1 => exact absurd rfl some
  | case2 => exact absurd rfl (none _ _ _ (.one ‹_›))
  | case5 => exact absurd rfl (none _ _ _ (.two ‹_› ‹_› ‹_›))
  | case11 => exact absurd rfl (none _ _ _ (.three ‹_› ‹_› (by simpa using ‹¬(!secondOfThree _ _) = true›) ‹_›))
  | case21 =>
    exact absurd rfl (none _ _ _ (.four ‹_› ‹_› (by simpa using ‹¬(!secondOfFour _ _) = true›)
      (by simpa using ‹¬(!isTail _) = true›) ‹_›))
  | _ => rfl

theorem not_lt_of_not_lt {a : UInt8} (low : UInt8) {high : UInt8} (least : ¬ a < high) (below : low ≤ high) :
    ¬ a < low :=
  fun less => least (Std.lt_of_lt_of_le less below)

theorem decodeFrom_char (pos : Nat) {block : List UInt8} {c : Char} (rest : List UInt8) (spelled : Spells block c) :
    decodeFrom pos (block ++ rest) = (c :: ·) <$> decodeFrom (pos + block.length) rest := by
  cases spelled with
  | one lead =>
    rw [List.singleton_append, decodeFrom.eq_def]
    simp only [lead, if_true]
    rfl
  | two least lead second =>
    have ascii := not_lt_of_not_lt 0x80 least (by decide)
    rw [List.cons_append, decodeFrom.eq_def]
    simp only [List.singleton_append, ascii, least, lead, second, if_true, if_false]
    rfl
  | three least lead second third =>
    have ascii := not_lt_of_not_lt 0x80 least (by decide)
    have start := not_lt_of_not_lt 0xC2 least (by decide)
    rw [List.cons_append, decodeFrom.eq_def]
    simp only [List.cons_append, List.nil_append, ascii, start, least, lead, second, third, Bool.not_true,
      Bool.false_eq_true, if_true, if_false]
    rfl
  | four least lead second third fourth =>
    have ascii := not_lt_of_not_lt 0x80 least (by decide)
    have start := not_lt_of_not_lt 0xC2 least (by decide)
    have notTwo := not_lt_of_not_lt 0xE0 least (by decide)
    rw [List.cons_append, decodeFrom.eq_def]
    simp only [List.cons_append, List.nil_append, ascii, start, notTwo, least, lead, second, third, fourth,
      Bool.not_true, Bool.false_eq_true, if_true, if_false]
    rfl

theorem isTail_iff {b : UInt8} : isTail b = true ↔ 0x80 ≤ b.toNat ∧ b.toNat < 0xC0 := by
  simp [isTail, UInt8.le_iff_toNat_le, UInt8.lt_iff_toNat_lt]

theorem secondOfThree_iff {a b : UInt8} : secondOfThree a b = true ↔
    isTail b = true ∧ (a.toNat = 0xE0 → 0xA0 ≤ b.toNat) ∧ (a.toNat = 0xED → b.toNat < 0xA0) := by
  simp only [secondOfThree, isTail_iff, Bool.and_eq_true, Bool.not_eq_true', Bool.and_eq_false_iff,
    beq_eq_false_iff_ne, decide_eq_false_iff_not, UInt8.lt_iff_toNat_lt, UInt8.le_iff_toNat_le, ne_eq,
    ← UInt8.toNat_inj, UInt8.reduceToNat]
  omega

theorem secondOfFour_iff {a b : UInt8} : secondOfFour a b = true ↔
    isTail b = true ∧ (a.toNat = 0xF0 → 0x90 ≤ b.toNat) ∧ (a.toNat = 0xF4 → b.toNat < 0x90) := by
  simp only [secondOfFour, isTail_iff, Bool.and_eq_true, Bool.not_eq_true', Bool.and_eq_false_iff,
    beq_eq_false_iff_ne, decide_eq_false_iff_not, UInt8.lt_iff_toNat_lt, UInt8.le_iff_toNat_le, ne_eq,
    ← UInt8.toNat_inj, UInt8.reduceToNat]
  omega

theorem high_of_code {n : Nat} (high : 0x80 ≤ n) (valid : n.isValidChar) : 0x80 ≤ (Char.ofNat n).toNat := by
  rwa [toNat_ofNat_of_valid valid]

theorem high_ofTwo {a b : UInt8} (least : ¬ a < 0xC2) (lead : a < 0xE0) (second : isTail b = true) :
    0x80 ≤ (ofTwo a b).toNat := by
  simp only [UInt8.lt_iff_toNat_lt, UInt8.reduceToNat, isTail_iff] at least lead second
  unfold ofTwo tailBits
  exact high_of_code (by omega) (.inl (by omega))

/-- The second byte keeps the code out of the short forms and away from the surrogates. -/
theorem high_ofThree {a b c : UInt8} (least : ¬ a < 0xE0) (lead : a < 0xF0) (second : secondOfThree a b = true)
    (third : isTail c = true) : 0x80 ≤ (ofThree a b c).toNat := by
  simp only [UInt8.lt_iff_toNat_lt, UInt8.reduceToNat, secondOfThree_iff, isTail_iff] at least lead second third
  unfold ofThree tailBits
  exact high_of_code (by omega) (by unfold Nat.isValidChar; omega)

/-- The second byte keeps the code out of the short forms and below the last one there is. -/
theorem high_ofFour {a b c d : UInt8} (least : ¬ a < 0xF0) (lead : a < 0xF5) (second : secondOfFour a b = true)
    (third : isTail c = true) (fourth : isTail d = true) : 0x80 ≤ (ofFour a b c d).toNat := by
  simp only [UInt8.lt_iff_toNat_lt, UInt8.reduceToNat, secondOfFour_iff, isTail_iff] at least lead second third fourth
  unfold ofFour tailBits
  exact high_of_code (by omega) (.inr (by omega))

theorem spelling : Spelling Spells (fun pos bytes => (decodeFrom pos bytes).mapError Flaw.start) where
  empty _ := rfl
  char := by
    intro pos block c rest spelled
    rw [decodeFrom_char pos rest spelled]
    cases decodeFrom (pos + block.length) rest <;> rfl
  broken pos _ some none := decodeFrom_broken pos some none
  filled := by
    intro block c spelled
    cases spelled <;> simp
  tails := by
    intro a block c spelled b member
    cases spelled with
    | one lead => simp at member
    | two least lead second =>
      obtain rfl : b = _ := by simpa using member
      exact not_low_of_isTail second
    | three least lead second third =>
      simp only [List.mem_cons, List.not_mem_nil, or_false] at member
      rcases member with rfl | rfl
      · exact not_low_of_isTail (secondOfThree_iff.mp second).1
      · exact not_low_of_isTail third
    | four least lead second third fourth =>
      simp only [List.mem_cons, List.not_mem_nil, or_false] at member
      rcases member with rfl | rfl | rfl
      · exact not_low_of_isTail (secondOfFour_iff.mp second).1
      · exact not_low_of_isTail third
      · exact not_low_of_isTail fourth
  ascii low := .one low
  plain := by
    intro block c spelled low
    cases spelled with
    | one lead => exact ⟨_, rfl, (toNat_ofNat_byte _).symm⟩
    | two least lead second => have := high_ofTwo least lead second; omega
    | three least lead second third => have := high_ofThree least lead second third; omega
    | four least lead second third fourth => have := high_ofFour least lead second third fourth; omega

end Utf8

namespace Codec

/-- The encodings of this kind that lines are read in. -/
def plain : List Codec := [.utf8, .ascii, .latin1] ++ CodePage.agreeing.map .page

/-- A text, or the place of the first byte that belongs to none. -/
def scan (codec : Codec) (bytes : List UInt8) : Except Nat (List Char) :=
  (codec.decode bytes).mapError (·.flaw.start)

theorem exists_spelling {codec : Codec} (member : codec ∈ plain) :
    ∃ spells scanFrom, Spelling spells scanFrom ∧ ∀ bytes, codec.scan bytes = scanFrom 0 bytes := by
  have merge {bytes : List UInt8} {name : String} (read : Except Flaw (List Char)) :
      (read.mapError (Undecodable.mk name bytes)).mapError (·.flaw.start) = read.mapError Flaw.start := by
    cases read <;> rfl
  cases codec with
  | utf8 => exact ⟨_, _, Utf8.spelling, fun bytes => merge _⟩
  | ascii =>
    have lower (b : UInt8) (low : b < 0x80) : asciiChar? b = some (Char.ofNat b.toNat) := if_pos low
    exact ⟨_, _, spelling_decodeTable _ lower low_of_asciiChar?, fun bytes => merge _⟩
  | latin1 => exact ⟨_, _, spelling_decodeTable _ (fun _ _ => rfl) low_of_latin1Char?, fun bytes => merge _⟩
  | page page =>
    obtain ⟨table, same, high⟩ := @CodePage.exists_upperHalf page (by simpa [plain] using member)
    have lower (b : UInt8) (low : b < 0x80) : page.char? b = some (Char.ofNat b.toNat) := by
      rw [same]; exact if_pos low
    exact ⟨_, _, spelling_decodeTable _ lower (same ▸ CodePage.low_of_upperHalf high), fun bytes => merge _⟩
  | utf8Marked | utf7 | utf16 _ | utf32 _ => simp [plain] at member

end Codec

end Linewise.Text
