import Linewise.Text.CodePage
import Linewise.Text.Quoted
import Linewise.Text.Utf7

/-! Codecs: how bytes are read as text, and how a line break is written. -/
namespace Linewise.Text

/-- An encoding in which texts can be read. The wide forms without a byte order take it from a mark. -/
inductive Codec
  | utf8
  | utf8Marked
  | utf7
  | ascii
  | latin1
  | page (page : CodePage)
  | utf16 (order : Option ByteOrder)
  | utf32 (order : Option ByteOrder)
  deriving DecidableEq, Repr

/-- Bytes that are no text of an encoding, with the encoding's own name. -/
structure Undecodable where
  codec : String
  bytes : List UInt8
  flaw : Flaw
  deriving DecidableEq, Repr

namespace Undecodable

def message (u : Undecodable) : String :=
  let subject := "'" ++ u.codec ++ "' codec can't decode "
  let place :=
    match u.bytes[u.flaw.start]? with
    | some b =>
      if u.flaw.stop = u.flaw.start + 1 then
        "byte 0x" ++ String.ofList (hexDigits 2 b.toNat) ++ " in position " ++ toString u.flaw.start
      else span
    | none => span
  subject ++ place ++ ": " ++ u.flaw.reason
where
  span : String :=
    "bytes in position " ++ toString u.flaw.start ++ "-" ++ toString ((u.flaw.stop : Int) - 1)

end Undecodable

namespace Codec

/-- One character a byte, as far as the table goes. -/
def decodeTable (char? : UInt8 → Option Char) (reason : String) (pos : Nat) :
    List UInt8 → Except Flaw (List Char)
  | [] => .ok []
  | b :: rest =>
    match char? b with
    | some c => (c :: ·) <$> decodeTable char? reason (pos + 1) rest
    | none => .error ⟨pos, pos + 1, reason⟩

def asciiChar? (b : UInt8) : Option Char := if b < 0x80 then some (Char.ofNat b.toNat) else none

def latin1Char? (b : UInt8) : Option Char := some (Char.ofNat b.toNat)

/-- UTF-8 text without the mark that may open it. -/
def unmarked : List UInt8 → List UInt8
  | 0xEF :: 0xBB :: 0xBF :: rest => rest
  | bytes => bytes

def wideName (width : String) : ByteOrder → String
  | .little => "utf-" ++ width ++ "-le"
  | .big => "utf-" ++ width ++ "-be"

def decode (codec : Codec) (bytes : List UInt8) : Except Undecodable (List Char) :=
  match codec with
  | utf8 => (Utf8.decode bytes).mapError (⟨"utf-8", bytes, ·⟩)
  | utf8Marked => (Utf8.decode (unmarked bytes)).mapError (⟨"utf-8", unmarked bytes, ·⟩)
  | utf7 => (Utf7.decodeFrom 0 none bytes).mapError (⟨"utf7", bytes, ·⟩)
  | ascii => (decodeTable asciiChar? "ordinal not in range(128)" 0 bytes).mapError (⟨"ascii", bytes, ·⟩)
  | latin1 => (decodeTable latin1Char? "" 0 bytes).mapError (⟨"latin-1", bytes, ·⟩)
  | page p =>
    (decodeTable p.char? "character maps to <undefined>" 0 bytes).mapError (⟨"charmap", bytes, ·⟩)
  | utf16 (some order) =>
    (Utf16.decodeFrom order 0 bytes).mapError (⟨wideName "16" order, bytes, ·⟩)
  | utf16 none =>
    let (order, pos, rest) := Utf16.announced bytes
    (Utf16.decodeFrom order pos rest).mapError (⟨wideName "16" order, bytes, ·⟩)
  | utf32 (some order) =>
    (Utf32.decodeFrom order 0 bytes).mapError (⟨wideName "32" order, bytes, ·⟩)
  | utf32 none =>
    let (order, pos, rest) := Utf32.announced bytes
    (Utf32.decodeFrom order pos rest).mapError (⟨wideName "32" order, bytes, ·⟩)

/-- A text of one line break, in bytes. -/
def lineBreak : Codec → List UInt8
  | utf8 | utf7 | ascii | latin1 => [0x0A]
  | utf8Marked => [0xEF, 0xBB, 0xBF, 0x0A]
  | page p => [p.lineBreak]
  | utf16 none => [0xFF, 0xFE, 0x0A, 0x00]
  | utf16 (some .little) => [0x0A, 0x00]
  | utf16 (some .big) => [0x00, 0x0A]
  | utf32 none => [0xFF, 0xFE, 0x00, 0x00, 0x0A, 0x00, 0x00, 0x00]
  | utf32 (some .little) => [0x0A, 0x00, 0x00, 0x00]
  | utf32 (some .big) => [0x00, 0x00, 0x00, 0x0A]

end Codec

end Linewise.Text
