import Linewise.Proofs.PlainCodecs

/-! UTF-8 has one spelling for each character, so reading and writing undo each other: bytes are read as a text
exactly if they are that text, written. -/
namespace Linewise.Text.Utf8

theorem toNat_ofNat_of_byte {n : Nat} (small : n < 0x100) : (UInt8.ofNat n).toNat = n :=
  UInt8.toNat_ofNat_of_lt' small

theorem ofNat_lt_iff {n : Nat} (small : n < 0x100) (b : UInt8) : UInt8.ofNat n < b ↔ n < b.toNat := by
  rw [UInt8.lt_iff_toNat_lt, toNat_ofNat_of_byte small]

theorem isTail_part {part : Nat} (small : part < 64) : isTail (UInt8.ofNat (part + 128)) = true := by
  rw [isTail_iff, toNat_ofNat_of_byte (by omega)]
  omega

theorem tailBits_part {part : Nat} (small : part < 64) : tailBits (UInt8.ofNat (part + 128)) = part := by
  have byte := @toNat_ofNat_of_byte (part + 128) (by omega)
  unfold tailBits
  omega

/-- A code of two bytes, in its parts. -/
theorem spells_two_parts {high low : Nat} (least : 2 ≤ high) (most : high < 32) (lowest : low < 64) :
    Spells [UInt8.ofNat (high + 192), UInt8.ofNat (low + 128)] (Char.ofNat (high * 64 + low)) := by
  have lead := @toNat_ofNat_of_byte (high + 192) (by omega)
  have spelled := Spells.two (a := UInt8.ofNat (high + 192)) (b := UInt8.ofNat (low + 128))
    (by simp only [ofNat_lt_iff (n := high + 192) (by omega), UInt8.reduceToNat]; omega)
    (by simp only [ofNat_lt_iff (n := high + 192) (by omega), UInt8.reduceToNat]; omega) (isTail_part lowest)
  simpa only [ofTwo, lead, tailBits_part lowest, Nat.add_sub_cancel] using spelled

/-- A code of three bytes, in its parts; the second part tells the shortest form and keeps off the surrogates. -/
theorem spells_three_parts {high mid low : Nat} (most : high < 16) (middle : mid < 64) (lowest : low < 64)
    (shortest : high = 0 → 32 ≤ mid) (proper : high = 13 → mid < 32) :
    Spells [UInt8.ofNat (high + 224), UInt8.ofNat (mid + 128), UInt8.ofNat (low + 128)]
      (Char.ofNat ((high * 64 + mid) * 64 + low)) := by
  have lead := @toNat_ofNat_of_byte (high + 224) (by omega)
  have next := @toNat_ofNat_of_byte (mid + 128) (by omega)
  have second : secondOfThree (UInt8.ofNat (high + 224)) (UInt8.ofNat (mid + 128)) = true := by
    rw [secondOfThree_iff, lead, next]
    exact ⟨isTail_part middle, by omega, by omega⟩
  have spelled := Spells.three (a := UInt8.ofNat (high + 224)) (b := UInt8.ofNat (mid + 128))
    (by simp only [ofNat_lt_iff (n := high + 224) (by omega), UInt8.reduceToNat]; omega)
    (by simp only [ofNat_lt_iff (n := high + 224) (by omega), UInt8.reduceToNat]; omega) second (isTail_part lowest)
  simpa only [ofThree, lead, tailBits_part middle, tailBits_part lowest, Nat.add_sub_cancel] using spelled

/-- A code of four bytes, in its parts; the second part tells the shortest form and the greatest code. -/
theorem spells_four_parts {top high mid low : Nat} (most : top < 5) (upper : high < 64) (middle : mid < 64)
    (lowest : low < 64) (shortest : top = 0 → 16 ≤ high) (greatest : top = 4 → high < 16) :
    Spells [UInt8.ofNat (top + 240), UInt8.ofNat (high + 128), UInt8.ofNat (mid + 128), UInt8.ofNat (low + 128)]
      (Char.ofNat (((top * 64 + high) * 64 + mid) * 64 + low)) := by
  have lead := @toNat_ofNat_of_byte (top + 240) (by omega)
  have next := @toNat_ofNat_of_byte (high + 128) (by omega)
  have second : secondOfFour (UInt8.ofNat (top + 240)) (UInt8.ofNat (high + 128)) = true := by
    rw [secondOfFour_iff, lead, next]
    exact ⟨isTail_part upper, by omega, by omega⟩
  have spelled := Spells.four (a := UInt8.ofNat (top + 240)) (b := UInt8.ofNat (high + 128))
    (by simp only [ofNat_lt_iff (n := top + 240) (by omega), UInt8.reduceToNat]; omega)
    (by simp only [ofNat_lt_iff (n := top + 240) (by omega), UInt8.reduceToNat]; omega) second (isTail_part middle)
    (isTail_part lowest)
  simpa only [ofFour, lead, tailBits_part upper, tailBits_part middle, tailBits_part lowest, Nat.add_sub_cancel]
    using spelled

theorem code_bounds (c : Char) : c.toNat < 0xD800 ∨ 0xDFFF < c.toNat ∧ c.toNat < 0x110000 := c.valid

/-- What is written for a character spells it. -/
theorem spells_encodeChar (c : Char) : Spells (String.utf8EncodeChar c) c := by
  have valid := code_bounds c
  have spelled_of_code {block : List UInt8} {n : Nat} (spelled : Spells block (Char.ofNat n)) (code : n = c.toNat) :
      Spells block c := by
    rwa [code, Char.ofNat_toNat] at spelled
  have value : c.val.toNat = c.toNat := rfl
  rw [String.utf8EncodeChar.eq_1, value]
  split
  next one =>
    have byte := @toNat_ofNat_of_byte c.toNat (by omega)
    exact spelled_of_code (.one ((ofNat_lt_iff (by omega) _).mpr (Nat.lt_succ_of_le one))) byte
  next notOne =>
  split
  next two =>
    exact spelled_of_code (spells_two_parts (by omega) (by omega) (by omega)) (by omega)
  next notTwo =>
  split
  next three =>
    exact spelled_of_code (spells_three_parts (by omega) (by omega) (by omega) (by omega) (by omega)) (by omega)
  next notThree =>
    exact spelled_of_code (spells_four_parts (by omega) (by omega) (by omega) (by omega) (by omega) (by omega))
      (by omega)

theorem ofNat_eq_of_toNat {n : Nat} {b : UInt8} (same : n = b.toNat) : UInt8.ofNat n = b := by
  rw [same, UInt8.ofNat_toNat]

/-- No other bytes spell a character than those written for it. -/
theorem encodeChar_of_spells {block : List UInt8} {c : Char} (spelled : Spells block c) :
    String.utf8EncodeChar c = block := by
  have value {n : Nat} (valid : n.isValidChar) : (Char.ofNat n).val.toNat = n := toNat_ofNat_of_valid valid
  cases spelled with
  | @one a lead =>
    simp only [UInt8.lt_iff_toNat_lt, UInt8.reduceToNat] at lead
    rw [String.utf8EncodeChar.eq_1, value (.inl (by omega)), if_pos (by omega), UInt8.ofNat_toNat]
  | @two a b least lead second =>
    simp only [UInt8.lt_iff_toNat_lt, UInt8.reduceToNat, isTail_iff] at least lead second
    unfold ofTwo tailBits
    rw [String.utf8EncodeChar.eq_1, value (.inl (by omega)), if_neg (by omega), if_pos (by omega),
      ofNat_eq_of_toNat (b := a) (by omega), ofNat_eq_of_toNat (b := b) (by omega)]
  | @three a b c least lead second third =>
    simp only [UInt8.lt_iff_toNat_lt, UInt8.reduceToNat, secondOfThree_iff, isTail_iff] at least lead second third
    unfold ofThree tailBits
    rw [String.utf8EncodeChar.eq_1, value (by unfold Nat.isValidChar; omega), if_neg (by omega), if_neg (by omega),
      if_pos (by omega), ofNat_eq_of_toNat (b := a) (by omega), ofNat_eq_of_toNat (b := b) (by omega),
      ofNat_eq_of_toNat (b := c) (by omega)]
  | @four a b c d least lead second third fourth =>
    simp only [UInt8.lt_iff_toNat_lt, UInt8.reduceToNat, secondOfFour_iff, isTail_iff]
      at least lead second third fourth
    unfold ofFour tailBits
    rw [String.utf8EncodeChar.eq_1, value (.inr (by omega)), if_neg (by omega), if_neg (by omega),
      if_neg (by omega), ofNat_eq_of_toNat (b := a) (by omega), ofNat_eq_of_toNat (b := b) (by omega),
      ofNat_eq_of_toNat (b := c) (by omega), ofNat_eq_of_toNat (b := d) (by omega)]

theorem decodeFrom_encode (pos : Nat) (text : List Char) : decodeFrom pos (encode text) = .ok text := by
  induction text generalizing pos with
  | nil => rfl
  | cons c text ih =>
    rw [encode, List.flatMap_cons, decodeFrom_char pos _ (spells_encodeChar c), ← encode, ih]
    rfl

theorem encode_of_decodeFrom {pos : Nat} {bytes : List UInt8} {text : List Char}
    (read : decodeFrom pos bytes = .ok text) : encode text = bytes := by
  induction bytes using spelling.bytes_induction generalizing pos text with
  | empty =>
    cases read
    rfl
  | char block c rest spelled ih =>
    rw [decodeFrom_char pos rest spelled] at read
    cases later : decodeFrom (pos + block.length) rest with
    | error flaw => rw [later] at read; cases read
    | ok others =>
      rw [later] at read
      cases read
      rw [← ih later, encode, List.flatMap_cons, encodeChar_of_spells spelled, ← encode]
  | broken bytes broken =>
    have refused := decodeFrom_broken pos broken.1 broken.2
    rw [read] at refused
    cases refused

/-- Bytes are read as a text exactly if they are what is written for it. -/
theorem decode_eq_ok_iff {bytes : List UInt8} {text : List Char} : decode bytes = .ok text ↔ encode text = bytes := by
  refine ⟨encode_of_decodeFrom, ?_⟩
  rintro rfl
  exact decodeFrom_encode 0 text

theorem encode_injective : Function.Injective encode := by
  intro text other same
  have read : decode (encode other) = .ok text := decode_eq_ok_iff.mpr same
  rw [decode_eq_ok_iff.mpr rfl] at read
  exact (Except.ok.inj read).symm

end Linewise.Text.Utf8
