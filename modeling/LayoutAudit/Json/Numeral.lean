import LayoutAudit.Wire.Node

/-!
# Json.Numeral — numbers in JSON text

An integer below `2 ^ 64`, or negative and not below `-2 ^ 63`, stays an integer.  Any other number
becomes a double in two steps: as many leading digits as a 64-bit significand holds are kept, and
the significand is scaled by one power of ten.

* `Json.Numeral.read` — a number at the front of a text;
* `Json.Numeral.scaled?` — a significand scaled by a power of ten.
-/

namespace LayoutAudit
namespace Json
namespace Numeral

open Wire (Fault Node)

def digitValue (c : Char) : Nat := c.toNat - '0'.toNat

/-- Takes digits into a 64-bit significand; stops before the first digit that does not fit.  Gives
the significand, the number of digits taken, and the digits left. -/
def absorb : Nat → Nat → List Char → Nat × Nat × List Char
  | significand, taken, [] => (significand, taken, [])
  | significand, taken, c :: rest =>
      let next := significand * 10 + digitValue c
      if next < UInt64.size then absorb next (taken + 1) rest else (significand, taken, c :: rest)

/-- The powers of ten that a double can scale by in one step. -/
def powerOfTen (n : Nat) : Float := OfScientific.ofScientific 1 false n

/-- `x / 10 ^ n`, in steps of at most `10 ^ 308`. -/
def divided : Nat → Float → Nat → Float
  | 0, x, _ => x
  | steps + 1, x, n =>
      if n ≤ 308 then x / powerOfTen n
      else if x == 0.0 then x
      else divided steps (x / powerOfTen 308) (n - 308)

/-- `significand · 10 ^ exponent` as a double, unless it is too large for one. -/
def scaled? (significand : Nat) (exponent : Int) : Option Float :=
  let x := Float.ofNat significand
  match exponent with
  | .ofNat n =>
      if n ≤ 308 then
        let y := x * powerOfTen n
        if y.isInf then none else some y
      else if x == 0.0 then some x else none
  | .negSucc n => some (divided 5 x (n + 1))

def signed (negative : Bool) (x : Float) : Float := if negative then -x else x

/-- A number with a fraction or an exponent, once its significand and exponent are known. -/
def real (negative : Bool) (significand : Nat) (exponent : Int) : Node :=
  match scaled? significand exponent with
  | some x => .number (.real (signed negative x))
  | none => .void

/-- A text that ends in the middle of a number; who passes over it takes it for a bad number. -/
def cut : Node × Option (List Char) := (.fault .truncated .malformed, none)

def bad : Node × Option (List Char) := (.fault .malformed .malformed, none)

/-- Reads digits of an exponent.  The exponent of an integer that is kept is below `2 ^ 31`; beyond
that the number is zero or too large. -/
def readExponent (negative : Bool) (significand : Nat) (exponent : Int) (cs : List Char) :
    Node × Option (List Char) :=
  let (down, cs) := match cs with
    | '+' :: rest => (false, rest)
    | '-' :: rest => (true, rest)
    | rest => (false, rest)
  let digits := cs.takeWhile Char.isDigit
  let rest := cs.dropWhile Char.isDigit
  match digits, rest with
  | [], [] => cut
  | [], _ :: _ => bad
  | _ :: _, _ =>
      let n := digits.foldl (fun n c => n * 10 + digitValue c) 0
      if n < UInt32.size / 2 then
        (real negative significand (if down then exponent - n else exponent + n), some rest)
      else if significand = 0 || down then (.number (.real (signed negative 0.0)), some rest)
      else (.void, some rest)

def readTail (negative : Bool) (significand : Nat) (exponent : Int) (cs : List Char) :
    Node × Option (List Char) :=
  match cs with
  | 'e' :: rest => readExponent negative significand exponent rest
  | 'E' :: rest => readExponent negative significand exponent rest
  | rest => (real negative significand exponent, some rest)

def readFraction (negative : Bool) (significand : Nat) (exponent : Int) (cs : List Char) :
    Node × Option (List Char) :=
  let digits := cs.takeWhile Char.isDigit
  let rest := cs.dropWhile Char.isDigit
  match digits, rest with
  | [], [] => cut
  | [], _ :: _ => bad
  | _ :: _, _ =>
      let (significand, taken, _) := absorb significand 0 digits
      readTail negative significand (exponent - taken) rest

/-- A number without fraction and exponent whose digits fit. -/
def integral (negative : Bool) (n : Nat) : Node :=
  if !negative then .number (.integer n)
  else if 0 < n ∧ n ≤ UInt64.size / 2 then .number (.integer (-(n : Int)))
  else .number (.real (-Float.ofNat n))

def read (negative : Bool) (cs : List Char) : Node × Option (List Char) :=
  let digits := cs.takeWhile Char.isDigit
  let rest := cs.dropWhile Char.isDigit
  match digits, rest with
  | [], [] => cut
  | [], _ :: _ => bad
  | '0' :: _ :: _, _ => bad
  | _ :: _, _ =>
      let (significand, _, left) := absorb 0 0 digits
      match rest with
      | '.' :: more => readFraction negative significand left.length more
      | 'e' :: more => readExponent negative significand left.length more
      | 'E' :: more => readExponent negative significand left.length more
      | _ =>
          if left.isEmpty then (integral negative significand, some rest)
          else (real negative significand left.length, some rest)

end Numeral
end Json
end LayoutAudit
