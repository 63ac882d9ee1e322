import Linewise.Text.Utf8

/-! UTF-16 and UTF-32: units of two or four bytes in one of two byte orders. -/
namespace Linewise.Text

inductive ByteOrder
  | little
  | big
  deriving DecidableEq, Repr

namespace ByteOrder

def pair (order : ByteOrder) (a b : UInt8) : Nat :=
  match order with
  | little => b.toNat * 0x100 + a.toNat
  | big => a.toNat * 0x100 + b.toNat

def quad (order : ByteOrder) (a b c d : UInt8) : Nat :=
  match order with
  | little => order.pair c d * 0x10000 + order.pair a b
  | big => order.pair a b * 0x10000 + order.pair c d

end ByteOrder

def isHighSurrogate (n : Nat) : Bool := 0xD800 ≤ n && n < 0xDC00
def isLowSurrogate (n : Nat) : Bool := 0xDC00 ≤ n && n < 0xE000
def joinSurrogates (high low : Nat) : Char := Char.ofNat (0x10000 + (high - 0xD800) * 0x400 + (low - 0xDC00))

namespace Utf16

def decodeFrom (order : ByteOrder) (pos : Nat) : List UInt8 → Except Flaw (List Char)
  | [] => .ok []
  | [_] => .error ⟨pos, pos + 1, "truncated data"⟩
  | a :: b :: rest =>
    let unit := order.pair a b
    if isLowSurrogate unit then .error ⟨pos, pos + 2, "illegal encoding"⟩
    else if isHighSurrogate unit then
      match rest with
      | [] => .error ⟨pos, pos + 2, "unexpected end of data"⟩
      | [_] => .error ⟨pos, pos + 3, "unexpected end of data"⟩
      | c :: d :: rest =>
        let next := order.pair c d
        if isLowSurrogate next then (joinSurrogates unit next :: ·) <$> decodeFrom order (pos + 4) rest
        else .error ⟨pos, pos + 2, "illegal UTF-16 surrogate"⟩
    else (Char.ofNat unit :: ·) <$> decodeFrom order (pos + 2) rest

/-- The byte order a leading mark announces, with the position and the bytes after it. Without a mark the
low byte comes first. -/
def announced : List UInt8 → ByteOrder × Nat × List UInt8
  | 0xFF :: 0xFE :: rest => (.little, 2, rest)
  | 0xFE :: 0xFF :: rest => (.big, 2, rest)
  | bytes => (.little, 0, bytes)

end Utf16

namespace Utf32

def decodeFrom (order : ByteOrder) (pos : Nat) : List UInt8 → Except Flaw (List Char)
  | a :: b :: c :: d :: rest =>
    let unit := order.quad a b c d
    if 0xD800 ≤ unit && unit < 0xE000 then
      .error ⟨pos, pos + 4, "code point in surrogate code point range"⟩
    else if 0x110000 ≤ unit then .error ⟨pos, pos + 4, "code point not in range(0x110000)"⟩
    else (Char.ofNat unit :: ·) <$> decodeFrom order (pos + 4) rest
  | [] => .ok []
  | bytes => .error ⟨pos, pos + bytes.length, "truncated data"⟩

def announced : List UInt8 → ByteOrder × Nat × List UInt8
  | 0xFF :: 0xFE :: 0x00 :: 0x00 :: rest => (.little, 4, rest)
  | 0x00 :: 0x00 :: 0xFE :: 0xFF :: rest => (.big, 4, rest)
  | bytes => (.little, 0, bytes)

end Utf32

end Linewise.Text
