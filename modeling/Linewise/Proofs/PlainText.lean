import Linewise.Proofs.Cutting
import Linewise.Proofs.Utf8Canonical
import Linewise.Text.Blank
import Linewise.Text.Escape

/-! What goes through unchanged. Trimming leaves a text alone that has no white space, and printing one without escape
characters. ASCII text is written and read alike in all plain encodings, and its lines are cut as they were put
together. -/
namespace Linewise.Text

theorem trim_of_solid {text : String} (solid : ∀ c ∈ text.toList, isBlank c = false) : trim text = text := by
  have kept {chars : List Char} (solid : ∀ c ∈ chars, isBlank c = false) : chars.dropWhile isBlank = chars := by
    cases chars with
    | nil => rfl
    | cons c rest => rw [List.dropWhile_cons, solid c (by simp)]; rfl
  have reversed : ∀ c ∈ text.toList.reverse, isBlank c = false :=
    fun c member => solid c (List.mem_reverse.mp member)
  rw [trim, trimLeft, kept solid, trimRight, kept reversed, List.reverse_reverse, String.ofList_toList]

theorem afterSequence?_of_ne {c : Char} (other : c ≠ '\x1b') (rest : List Char) :
    afterSequence? (c :: rest) = none := by
  unfold afterSequence?
  split
  next same => exact absurd (List.cons.inj same).1 other
  next => rfl

theorem stripFrom_of_unescaped {text : List Char} (unescaped : '\x1b' ∉ text) : stripFrom 0 text = text := by
  induction text with
  | nil => rfl
  | cons c rest ih =>
    obtain ⟨other, later⟩ := not_or.mp (List.mem_cons.not.mp unescaped)
    rw [stripFrom, afterSequence?_of_ne (Ne.symm other), ih later]

theorem stripEscapes_of_unescaped {text : String} (unescaped : '\x1b' ∉ text.toList) : stripEscapes text = text := by
  rw [stripEscapes, stripFrom_of_unescaped unescaped, String.ofList_toList]

/-- A text of ASCII characters. -/
def IsAscii (text : List Char) : Prop := ∀ c ∈ text, c.toNat < 0x80

/-- The byte of an ASCII character. -/
def asciiByte (c : Char) : UInt8 := UInt8.ofNat c.toNat

theorem toNat_asciiByte {c : Char} (low : c.toNat < 0x80) : (asciiByte c).toNat = c.toNat :=
  Utf8.toNat_ofNat_of_byte (by omega)

theorem Utf8.encodeChar_of_ascii {c : Char} (low : c.toNat < 0x80) : String.utf8EncodeChar c = [asciiByte c] := by
  have value := toNat_asciiByte low
  have spelled := Spells.one (a := asciiByte c) (UInt8.lt_iff_toNat_lt.mpr (value ▸ low))
  rw [value, Char.ofNat_toNat] at spelled
  exact encodeChar_of_spells spelled

theorem Utf8.encode_of_ascii {text : List Char} (ascii : IsAscii text) : encode text = text.map asciiByte := by
  induction text with
  | nil => rfl
  | cons c rest ih =>
    rw [encode, List.flatMap_cons, encodeChar_of_ascii (ascii c (by simp)), ← encode,
      ih fun other member => ascii other (by simp [member])]
    rfl

theorem Utf8.encode_append (text rest : List Char) : encode (text ++ rest) = encode text ++ encode rest :=
  List.flatMap_append

/-- An ASCII character is in a text if its byte is in what is written for it. -/
theorem Utf8.mem_of_encode {text : List Char} (ascii : IsAscii text) {c : Char} (low : c.toNat < 0x80)
    (member : asciiByte c ∈ encode text) : c ∈ text := by
  rw [encode_of_ascii ascii] at member
  obtain ⟨d, inside, same⟩ := List.mem_map.mp member
  have values := congrArg UInt8.toNat same
  rw [toNat_asciiByte (ascii d inside), toNat_asciiByte low] at values
  exact Char.toNat_inj.mp values ▸ inside

theorem Spelling.scan_of_ascii {spells : List UInt8 → Char → Prop}
    {scan : Nat → List UInt8 → Except Nat (List Char)}
    (spelling : Spelling spells scan) (pos : Nat) {text : List Char} (ascii : IsAscii text) :
    scan pos (text.map asciiByte) = .ok text := by
  induction text generalizing pos with
  | nil => exact spelling.empty pos
  | cons c rest ih =>
    have low : c.toNat < 0x80 := ascii c (by simp)
    have value := toNat_asciiByte low
    have below : asciiByte c < 0x80 := UInt8.lt_iff_toNat_lt.mpr (value ▸ low)
    rw [List.map_cons, spelling.scan_ascii pos below, ih _ fun other member => ascii other (by simp [member]), value,
      Char.ofNat_toNat]
    rfl

/-- Plain encodings read ASCII text as it is written in UTF-8. -/
theorem Codec.scan_of_ascii {codec : Codec} (plain : codec ∈ Codec.plain) {text : List Char} (ascii : IsAscii text) :
    codec.scan (Utf8.encode text) = .ok text := by
  obtain ⟨spells, scan, spelling, same⟩ := exists_spelling plain
  rw [same, Utf8.encode_of_ascii ascii, spelling.scan_of_ascii 0 ascii]

/-- Lines of ASCII text, each with a line feed after it, are cut into just these lines. -/
theorem byteLines_encode {texts : List (List Char)} (ascii : ∀ text ∈ texts, IsAscii text)
    (unbroken : ∀ text ∈ texts, '\n' ∉ text ∧ '\r' ∉ text) :
    byteLines (Utf8.encode (texts.flatMap (· ++ ['\n']))) = texts.map Utf8.encode := by
  induction texts with
  | nil => rfl
  | cons text texts ih =>
    have plain := ascii text (by simp)
    have noFeed : 0x0A ∉ Utf8.encode text :=
      fun member => (unbroken text (by simp)).1 (Utf8.mem_of_encode plain (by decide) member)
    have noReturn : (Utf8.encode text).getLast? ≠ some 0x0D := fun last =>
      (unbroken text (by simp)).2 (Utf8.mem_of_encode plain (by decide) (List.mem_of_getLast? last))
    have later := ih (fun other member => ascii other (by simp [member]))
      (fun other member => unbroken other (by simp [member]))
    have joined (rest : List Char) :
        Utf8.encode (text ++ ['\n'] ++ rest) = Utf8.encode text ++ 0x0A :: Utf8.encode rest := by
      rw [Utf8.encode_append, Utf8.encode_append, List.append_assoc]
      rfl
    rw [List.flatMap_cons, joined, byteLines, cutLines_break _ noFeed, withoutLast_of_ne noReturn, ← byteLines, later,
      List.map_cons]

end Linewise.Text
