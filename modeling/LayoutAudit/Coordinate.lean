/-!
# Coordinate — doubles as positions and lengths

Positions and lengths are doubles in CSS pixels.  This file fixes the operations on them that leave
room for choice: what the lesser of two is when one is undefined, and the total order that sorting
uses.

* `Coordinate.least`, `Coordinate.greatest` — an undefined operand gives way, and a tie keeps the
  first operand;
* `Coordinate.rank` — the place of a double in the total order of all doubles;
* `Coordinate.lowest`, `Coordinate.highest` — the ends of the finite doubles.
-/

namespace LayoutAudit
namespace Coordinate

def highest : Float := 1.7976931348623157e308

def lowest : Float := -1.7976931348623157e308

def least (a b : Float) : Float := if a.isNaN then b else if b < a then b else a

def greatest (a b : Float) : Float := if a.isNaN then b else if a < b then b else a

/-- The place in the total order: negative before positive, `-0` before `0`, and what is undefined
beyond the infinity of its sign. -/
def rank (x : Float) : Int :=
  let n := x.toBits.toNat
  if n < UInt64.size / 2 then n else -(n - UInt64.size / 2 : Nat) - 1

end Coordinate
end LayoutAudit
