/-! Capital letters, as far as a name written in basic Latin capitals can come out of them. -/
namespace Linewise.Text

/-- The capital form of a character. Besides the basic Latin letters this covers the characters whose
capital form consists of basic Latin letters alone; every other character stands for itself. -/
def capital (c : Char) : List Char :=
  match c.toNat with
  | 0xDF => ['S', 'S']
  | 0x131 => ['I']
  | 0x17F => ['S']
  | 0xFB00 => ['F', 'F']
  | 0xFB01 => ['F', 'I']
  | 0xFB02 => ['F', 'L']
  | 0xFB03 => ['F', 'F', 'I']
  | 0xFB04 => ['F', 'F', 'L']
  | 0xFB05 => ['S', 'T']
  | 0xFB06 => ['S', 'T']
  | n => if 0x61 ≤ n ∧ n ≤ 0x7A then [Char.ofNat (n - 0x20)] else [c]

def capitals (s : String) : String := String.ofList (s.toList.flatMap capital)

end Linewise.Text
