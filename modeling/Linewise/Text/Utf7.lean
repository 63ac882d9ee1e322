import Linewise.Text.Wide

/-! UTF-7: ASCII text in which `+` opens a run of base 64 digits that carry UTF-16 units. -/
namespace Linewise.Text.Utf7

def digit? (b : UInt8) : Option Nat :=
  let n := b.toNat
  if 0x41 ≤ n ∧ n ≤ 0x5A then some (n - 0x41)
  else if 0x61 ≤ n ∧ n ≤ 0x7A then some (n - 0x61 + 26)
  else if 0x30 ≤ n ∧ n ≤ 0x39 then some (n - 0x30 + 52)
  else if n = 0x2B then some 62
  else if n = 0x2F then some 63
  else none

/-- An open run: where its `+` stands, the bits not yet used, and a high surrogate waiting for its
partner. -/
structure Run where
  start : Nat
  count : Nat
  bits : Nat
  high : Option Nat

/-- What one more digit completes. -/
inductive Progress
  | more (run : Run)
  | char (c : Char) (run : Run)
  | lone

def Run.push (run : Run) (digit : Nat) : Progress :=
  let count := run.count + 6
  let bits := run.bits * 64 + digit
  if count < 16 then .more { run with count, bits }
  else
    let unit := bits / Nat.pow 2 (count - 16)
    let rest := { run with count := count - 16, bits := bits % Nat.pow 2 (count - 16), high := none }
    match run.high with
    | some high => if isLowSurrogate unit then .char (joinSurrogates high unit) rest else .lone
    | none =>
      if isHighSurrogate unit then .more { rest with high := some unit }
      else if isLowSurrogate unit then .lone
      else .char (Char.ofNat unit) rest

/-- Why the run may not end before position `pos`, if it may not. -/
def Run.openEnd (run : Run) (pos : Nat) : Option Flaw :=
  if 6 ≤ run.count then some ⟨run.start, pos + 1, "partial character in shift sequence"⟩
  else if run.bits ≠ 0 then some ⟨run.start, pos + 1, "non-zero padding bits in shift sequence"⟩
  else if run.high.isSome then some ⟨run.start, pos + 1, "illegal surrogate"⟩
  else none

/-- A byte outside a run. -/
inductive Plain
  | char (c : Char)
  | plus
  | opened
  | flawed (flaw : Flaw)

def plain (pos : Nat) (b : UInt8) (next : Option UInt8) : Plain :=
  if b = 0x2B then
    match next with
    | none => .opened
    | some d =>
      if d = 0x2D then .plus
      else if (digit? d).isSome then .opened
      else .flawed ⟨pos, pos + 2, "ill-formed sequence"⟩
  else if b < 0x80 then .char (Char.ofNat b.toNat)
  else .flawed ⟨pos, pos + 1, "unexpected special character"⟩

def decodeFrom (pos : Nat) : Option Run → List UInt8 → Except Flaw (List Char)
  | none, [] => .ok []
  | some run, [] =>
    if 6 ≤ run.count ∨ run.bits ≠ 0 ∨ run.high.isSome then
      .error ⟨run.start, pos, "unterminated shift sequence"⟩
    else .ok []
  | none, b :: rest => outside pos b rest
  | some run, b :: rest =>
    match digit? b with
    | some d =>
      match run.push d with
      | .more run => decodeFrom (pos + 1) (some run) rest
      | .char c run => (c :: ·) <$> decodeFrom (pos + 1) (some run) rest
      | .lone => .error ⟨run.start, pos + 1, "illegal surrogate"⟩
    | none =>
      match run.openEnd pos with
      | some flaw => .error flaw
      | none => if b = 0x2D then decodeFrom (pos + 1) none rest else outside pos b rest
where
  outside (pos : Nat) (b : UInt8) (rest : List UInt8) : Except Flaw (List Char) :=
    match plain pos b rest.head? with
    | .char c => (c :: ·) <$> decodeFrom (pos + 1) none rest
    | .opened => decodeFrom (pos + 1) (some ⟨pos, 0, 0, none⟩) rest
    | .flawed flaw => .error flaw
    | .plus =>
      match rest with
      | [] => .ok ['+']
      | _ :: rest => ('+' :: ·) <$> decodeFrom (pos + 2) none rest

end Linewise.Text.Utf7
