import Linewise.Yaml.Scalar

/-! The order in which a set lists numbers. Each number has a place in a table, found from its residue and
then by trial; the set lists its numbers by their places. -/
namespace Linewise.Yaml.Scatter

def modulus : Nat := Nat.pow 2 61 - 1

/-- Residues are taken of the size, then signed; minus one is not in use. -/
def residue (negative : Bool) (size : Nat) : Int :=
  let rest : Int := size % modulus
  if !negative then rest else if rest = 1 then -2 else -rest

/-- The residue of a scalar that is a number. A half counts as `2 ^ 60`. -/
def residue? : Scalar → Option Int
  | .int n => some (residue (n < 0) n.natAbs)
  | .bool b => some (if b then 1 else 0)
  | .real (.finite b) => some (residue b.negative (b.mantissa * Nat.pow 2 (b.exponent.emod 61).toNat))
  | .real (.infinite negative) => some (if negative then -314159 else 314159)
  | _ => none

/-- The number of places in a table for so many members: a power of two, at least eight and, beyond four
members, more than twice their number. -/
def capacity (count : Nat) : Nat := if count ≤ 4 then 8 else max 8 (Nat.pow 2 ((2 * count).log2 + 1))

/-- How many neighbours of a place are tried with it. -/
def neighbours : Nat := 9

/-- A place and its neighbours, if they all lie in the table. -/
def run (size place : Nat) : List Nat :=
  if place + neighbours < size then (List.range (neighbours + 1)).map (place + ·) else [place]

/-- The first free place on the way of a residue. -/
def freePlace (table : Array (Option α)) : (fuel : Nat) → (place stir : Nat) → Nat
  | 0, place, _ => place
  | fuel + 1, place, stir =>
    match (run table.size place).find? fun i => table[i]?.join.isNone with
    | some i => i
    | none =>
      let stir := stir / Nat.pow 2 5
      freePlace table fuel ((place * 5 + 1 + stir) % table.size) stir

def insert (table : Array (Option α)) (residue : Int) (member : α) : Array (Option α) :=
  let start := (residue.emod (Nat.pow 2 64)).toNat
  table.setIfInBounds (freePlace table (table.size + 16) (start % table.size) start) (some member)

/-- Members by their places in the table they are put into one after another. -/
def arrange (members : List (Int × α)) : List α :=
  let table := Array.replicate (capacity members.length) none
  let table := members.foldl (fun table (residue, member) => insert table residue member) table
  table.toList.filterMap id

end Linewise.Yaml.Scatter
