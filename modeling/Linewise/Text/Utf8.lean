/-! UTF-8, read strictly. A byte text that is not well formed is refused at the first byte that starts no
character, and the flaw spans the longest beginning of a character found there. -/
namespace Linewise.Text

/-- Where and why a byte text cannot be read: bytes `start` to `stop`, the latter excluded. -/
structure Flaw where
  start : Nat
  stop : Nat
  reason : String
  deriving DecidableEq, Repr

namespace Utf8

/-- Byte `10xxxxxx`. -/
def isTail (b : UInt8) : Bool := 0x80 ≤ b && b < 0xC0

/-- May `b` follow `a`, the first of three bytes? The shortest form is required, and no surrogate. -/
def secondOfThree (a b : UInt8) : Bool :=
  isTail b && !(a == 0xE0 && b < 0xA0) && !(a == 0xED && 0xA0 ≤ b)

/-- May `b` follow `a`, the first of four bytes? The shortest form is required, and nothing above
`10FFFF`. -/
def secondOfFour (a b : UInt8) : Bool :=
  isTail b && !(a == 0xF0 && b < 0x90) && !(a == 0xF4 && 0x90 ≤ b)

def tailBits (b : UInt8) : Nat := b.toNat - 0x80

def ofTwo (a b : UInt8) : Char := Char.ofNat ((a.toNat - 0xC0) * 0x40 + tailBits b)

def ofThree (a b c : UInt8) : Char :=
  Char.ofNat (((a.toNat - 0xE0) * 0x40 + tailBits b) * 0x40 + tailBits c)

def ofFour (a b c d : UInt8) : Char :=
  Char.ofNat ((((a.toNat - 0xF0) * 0x40 + tailBits b) * 0x40 + tailBits c) * 0x40 + tailBits d)

def badStart (pos : Nat) : Flaw := ⟨pos, pos + 1, "invalid start byte"⟩
def badTail (pos len : Nat) : Flaw := ⟨pos, pos + len, "invalid continuation byte"⟩
def cutOff (pos len : Nat) : Flaw := ⟨pos, pos + len, "unexpected end of data"⟩

/-- The text of a byte list whose first byte has position `pos`. -/
def decodeFrom (pos : Nat) : List UInt8 → Except Flaw (List Char)
  | [] => .ok []
  | a :: rest =>
    if a < 0x80 then (Char.ofNat a.toNat :: ·) <$> decodeFrom (pos + 1) rest
    else if a < 0xC2 then .error (badStart pos)
    else if a < 0xE0 then
      match rest with
      | [] => .error (cutOff pos 1)
      | b :: rest =>
        if isTail b then (ofTwo a b :: ·) <$> decodeFrom (pos + 2) rest else .error (badTail pos 1)
    else if a < 0xF0 then
      match rest with
      | [] => .error (cutOff pos 1)
      | [b] => if secondOfThree a b then .error (cutOff pos 2) else .error (badTail pos 1)
      | b :: c :: rest =>
        if !secondOfThree a b then .error (badTail pos 1)
        else if isTail c then (ofThree a b c :: ·) <$> decodeFrom (pos + 3) rest
        else .error (badTail pos 2)
    else if a < 0xF5 then
      match rest with
      | [] => .error (cutOff pos 1)
      | [b] => if secondOfFour a b then .error (cutOff pos 2) else .error (badTail pos 1)
      | [b, c] =>
        if !secondOfFour a b then .error (badTail pos 1)
        else if isTail c then .error (cutOff pos 3) else .error (badTail pos 2)
      | b :: c :: d :: rest =>
        if !secondOfFour a b then .error (badTail pos 1)
        else if !isTail c then .error (badTail pos 2)
        else if isTail d then (ofFour a b c d :: ·) <$> decodeFrom (pos + 4) rest
        else .error (badTail pos 3)
    else .error (badStart pos)

def decode (bytes : List UInt8) : Except Flaw (List Char) := decodeFrom 0 bytes

def encode (s : List Char) : List UInt8 := s.flatMap String.utf8EncodeChar

end Utf8

end Linewise.Text
