import LayoutAudit.Decimal.Shortest
import LayoutAudit.Json.Value

/-!
# Json.Plain — numbers that do not tell integers from doubles

Programs that know only doubles write an integral number without a point.  `Value.plain` puts the
integer in place of each such double.

* `Number.plain` — for one number;
* `Value.plain` — for all numbers of a value.
-/

namespace LayoutAudit
namespace Json

open Decimal (Binary Cell Digits)

/-- The integer that the shortest digits of a double give, if they have no fraction and are below
`10 ^ 21`. -/
def integral? (x : Float) : Option Int :=
  match Binary.ofFloat x with
  | .finite negative significand exponent =>
      if significand = 0 then some 0
      else
        let d := (Cell.of significand exponent).shortest .toEven
        if 0 ≤ d.scale ∧ d.leading < 21 then
          let n : Int := d.digits * Nat.pow 10 d.scale.toNat
          some (if negative then -n else n)
        else none
  | _ => none

/-- A number of which only the value counts. -/
def Number.plain : Number → Number
  | .integer i => .integer i
  | .real x =>
      match integral? x with
      | some i => .integer i
      | none => .real x

namespace Value

mutual
/-- The numbers of a value without points that are not needed. -/
def plain : Value → Value
  | .number n => .number n.plain
  | .array items => .array (plainItems items)
  | .object members => .object (plainMembers members)
  | v => v

def plainItems : List Value → List Value
  | [] => []
  | v :: rest => plain v :: plainItems rest

def plainMembers : List (String × Value) → List (String × Value)
  | [] => []
  | (k, v) :: rest => (k, plain v) :: plainMembers rest
end

end Value
end Json
end LayoutAudit
