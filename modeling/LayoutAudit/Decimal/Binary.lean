/-!
# Decimal.Binary — doubles as exact dyadic numbers

A finite double is `± significand · 2 ^ exponent`.  This file reads the three parts off the bit
pattern and gives the interval of reals that round to the double, both as exact naturals.

* `Decimal.Binary` — what a double is: not a number, an infinity, or a dyadic number;
* `Decimal.Binary.ofFloat` — the decomposition;
* `Decimal.Cell` — a dyadic number with the two ends of its rounding interval, over one denominator.
-/

namespace LayoutAudit
namespace Decimal

inductive Binary where
  | nan
  | infinite (negative : Bool)
  /-- `significand · 2 ^ exponent`, with a sign that zero keeps too. -/
  | finite (negative : Bool) (significand : Nat) (exponent : Int)
  deriving DecidableEq, Repr

/-- The least exponent of a double; subnormal numbers have it. -/
def leastExponent : Int := -1074

namespace Binary

/-- Splits the 64 bits into sign, exponent field and fraction field. -/
def ofFloat (x : Float) : Binary :=
  let bits := x.toBits.toNat
  let negative : Bool := bits / Nat.pow 2 63 == 1
  let field : Nat := bits / Nat.pow 2 52 % Nat.pow 2 11
  let fraction := bits % Nat.pow 2 52
  if field = 2047 then
    if fraction = 0 then .infinite negative else .nan
  else if field = 0 then
    .finite negative fraction leastExponent
  else
    .finite negative (Nat.pow 2 52 + fraction) ((field : Int) - 1 + leastExponent)

end Binary

/-- A positive dyadic number `value / scale` and the ends of the interval of reals that round to
it.  The ends themselves round to it exactly when `closed`. -/
structure Cell where
  low : Nat
  value : Nat
  high : Nat
  scale : Nat
  closed : Bool
  deriving Repr

/-- The cell of `significand · 2 ^ exponent`.  Below a power of two the neighbour is only half as
far away, unless the number has the least exponent. -/
def Cell.of (significand : Nat) (exponent : Int) : Cell :=
  let below := if significand = Nat.pow 2 52 ∧ exponent ≠ leastExponent then 1 else 2
  let up := Nat.pow 2 (exponent - 2).toNat
  { low := (4 * significand - below) * up
    value := 4 * significand * up
    high := (4 * significand + 2) * up
    scale := Nat.pow 2 (2 - exponent).toNat
    closed := significand % 2 = 0 }

end Decimal
end LayoutAudit
