import LayoutAudit.Text.Character

/-!
# Text.Leading — the number in front of a text

A text such as `0.5 of all` begins with a number, and what comes behind it does not matter.

* `Text.Leading`, `Text.leading?` — the decimal number in front of a text;
* `Leading.isPositive` — is it above zero, as a double?
-/

namespace LayoutAudit
namespace Text

/-- The number `digits · 10 ^ scale`, or an unlimited one. -/
structure Leading where
  negative : Bool
  unlimited : Bool
  digits : Nat
  scale : Int
  deriving DecidableEq, Repr

namespace Leading

def isGap (c : Char) : Bool := (isBlank c && c != '\u0085') || c == '\uFEFF'

/-- The digits in front, as a number, and what is behind them. -/
def digitsOf (cs : List Char) : List Char × List Char :=
  (cs.takeWhile Char.isDigit, cs.dropWhile Char.isDigit)

/-- The value of digits, zero if there are none. -/
def value (digits : List Char) : Nat := (digits? 10 digits).getD 0

def exponent : List Char → Int
  | c :: rest =>
      if c = 'e' ∨ c = 'E' then
        match rest with
        | '-' :: rest => -(value (digitsOf rest).1 : Int)
        | '+' :: rest => value (digitsOf rest).1
        | rest => value (digitsOf rest).1
      else 0
  | [] => 0

def unsigned? (negative : Bool) (cs : List Char) : Option Leading :=
  if "Infinity".toList.isPrefixOf cs then some ⟨negative, true, 0, 0⟩
  else
    let (whole, rest) := digitsOf cs
    let (fraction, rest) := match rest with
      | '.' :: rest => digitsOf rest
      | rest => ([], rest)
    if whole.isEmpty ∧ fraction.isEmpty then none
    else some ⟨negative, false, value (whole ++ fraction), exponent rest - fraction.length⟩

/-- Is the number above zero, as a double?  What is at most half of the least double is zero. -/
def isPositive (n : Leading) : Bool :=
  if n.negative then false
  else if n.unlimited then true
  else if n.digits = 0 then false
  else
    let places : Int := (Nat.toDigits 10 n.digits).length + n.scale
    if places > -323 then true
    else if places < -323 then false
    else n.digits * Nat.pow 2 1075 > Nat.pow 10 (-n.scale).toNat

end Leading

def leading? (s : String) : Option Leading :=
  match s.toList.dropWhile Leading.isGap with
  | '-' :: cs => Leading.unsigned? true cs
  | '+' :: cs => Leading.unsigned? false cs
  | cs => Leading.unsigned? false cs

end Text
end LayoutAudit
