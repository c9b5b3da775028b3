import LayoutAudit.Decimal.Binary

/-!
# Decimal.Shortest — the fewest decimal digits that read back

For one, two, … seventeen digits the two neighbours of a number on the decimal grid with that many
digits are compared, in exact arithmetic, with the interval of reals that round to the number.  The
first grid with a neighbour inside wins; of two neighbours the nearer one, and an exact tie goes as
`Tie` says.

* `Decimal.Digits` — a decimal number `digits · 10 ^ scale`;
* `Decimal.Cell.shortest` — the selection.
-/

namespace LayoutAudit
namespace Decimal

/-- Which of two equally near decimal numbers is taken. -/
inductive Tie where
  | toEven
  | upward
  deriving DecidableEq, Repr

/-- The decimal number `digits · 10 ^ scale`. -/
structure Digits where
  digits : Nat
  scale : Int
  deriving DecidableEq, Repr

namespace Digits

/-- Moves trailing zeros of the digits into the scale, at most `fuel` of them. -/
def trim : Nat → Digits → Digits
  | 0, d => d
  | fuel + 1, d =>
      if d.digits ≠ 0 ∧ d.digits % 10 = 0 then trim fuel ⟨d.digits / 10, d.scale + 1⟩ else d

def chars (d : Digits) : List Char := Nat.toDigits 10 d.digits

/-- The exponent of the first digit. -/
def leading (d : Digits) : Int := d.scale + (d.chars.length - 1 : Nat)

end Digits

namespace Cell

/-- `a / scale < 10 ^ e`. -/
def belowPower (a scale : Nat) (e : Int) : Bool :=
  a * Nat.pow 10 (-e).toNat < scale * Nat.pow 10 e.toNat

/-- The exponent of the first decimal digit of the value: an estimate from the number of bits,
then corrected by one. -/
def leading (c : Cell) : Int :=
  let bits : Int := (Nat.log2 c.value : Int) - (Nat.log2 c.scale : Int)
  let guess := (bits * 30103) / 100000
  if belowPower c.value c.scale guess then guess - 1
  else if belowPower c.value c.scale (guess + 1) then guess
  else guess + 1

/-- Does `digits · 10 ^ grid` round to the cell's value? -/
def admits (c : Cell) (digits : Nat) (grid : Int) : Bool :=
  let x := digits * c.scale * Nat.pow 10 grid.toNat
  let unit := Nat.pow 10 (-grid).toNat
  if c.closed then c.low * unit ≤ x && x ≤ c.high * unit
  else c.low * unit < x && x < c.high * unit

/-- The neighbour of the value on the grid of step `10 ^ grid`, if one rounds to the value. -/
def onGrid (c : Cell) (tie : Tie) (grid : Int) : Option Digits :=
  let num := c.value * Nat.pow 10 (-grid).toNat
  let den := c.scale * Nat.pow 10 grid.toNat
  let down := num / den
  let up := down + 1
  match c.admits down grid, c.admits up grid with
  | false, false => none
  | true, false => some ⟨down, grid⟩
  | false, true => some ⟨up, grid⟩
  | true, true =>
      let toDown := num - down * den
      let toUp := up * den - num
      let takeDown := toDown < toUp || (toDown == toUp && tie == .toEven && down % 2 == 0)
      some ⟨if takeDown then down else up, grid⟩

/-- Tries `count` grids, each ten times finer than the one before. -/
def search (c : Cell) (tie : Tie) : Nat → Int → Digits
  | 0, grid => ⟨c.value * Nat.pow 10 (-grid).toNat / (c.scale * Nat.pow 10 grid.toNat), grid⟩
  | count + 1, grid =>
      match c.onGrid tie grid with
      | some d => d
      | none => search c tie count (grid - 1)

/-- The shortest decimal number that rounds to the value, and the nearest of those. -/
def shortest (c : Cell) (tie : Tie) : Digits :=
  (c.search tie 17 c.leading).trim 400

end Cell
end Decimal
end LayoutAudit
