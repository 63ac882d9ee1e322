import Linewise.Text.Codec

/-! UTF-8 text that arrives in pieces. A character cut in two waits for the next piece, so the position of
a flaw is counted from the piece it lies in, or from the start of a character left over from the piece
before. -/
namespace Linewise.Text.Stream

/-- The bytes read at a time. -/
def pieceLength : Nat := 8192

def piecesFrom : (fuel : Nat) → List UInt8 → List (List UInt8)
  | 0, _ => []
  | fuel + 1, bytes =>
    if bytes = [] then [] else bytes.take pieceLength :: piecesFrom fuel (bytes.drop pieceLength)

def pieces (bytes : List UInt8) : List (List UInt8) := piecesFrom bytes.length bytes

/-- The first two bytes of a surrogate. No character starts with them, which shows only with the third. -/
def isCutSurrogate : List UInt8 → Bool
  | [0xED, second] => 0xA0 ≤ second && second ≤ 0xBF
  | _ => false

def decodePieces (pending : List UInt8) : List (List UInt8) → Except Undecodable (List Char)
  | [] => Codec.utf8.decode pending
  | piece :: rest =>
    let input := pending ++ piece
    match Utf8.decode input with
    | .ok text => (text ++ ·) <$> decodePieces [] rest
    | .error flaw =>
      if flaw.reason = (Utf8.cutOff 0 1).reason || isCutSurrogate (input.drop flaw.start) then do
        let text ← Codec.utf8.decode (input.take flaw.start)
        (text ++ ·) <$> decodePieces (input.drop flaw.start) rest
      else .error ⟨"utf-8", input, flaw⟩

/-- Writes every line break as a line feed. -/
def unifyBreaks : List Char → List Char
  | '\r' :: '\n' :: rest => '\n' :: unifyBreaks rest
  | '\r' :: rest => '\n' :: unifyBreaks rest
  | c :: rest => c :: unifyBreaks rest
  | [] => []

def decode (bytes : List UInt8) : Except Undecodable (List Char) :=
  unifyBreaks <$> decodePieces [] (pieces bytes)

end Linewise.Text.Stream
