import LayoutAudit.Decimal.Shortest

/-!
# Decimal.Style — how a decimal number is laid out

The digits of a double are chosen in `LayoutAudit.Decimal.Shortest`; a `Style` holds the decisions
about their layout.  There are two of them: `Style.wire` for data and `Style.prose` for messages.
-/

namespace LayoutAudit
namespace Decimal

/-- The layout decisions of one kind of number text. -/
structure Style where
  /-- Exponents of the first digit that are written without an exponent; `none` means all. -/
  positional : Option (Int × Int)
  /-- An integral number keeps `.0`. -/
  keepsPoint : Bool
  tie : Tie
  deriving Repr

namespace Style

/-- Numbers in data: the point stays, and exponents below -5 or from 16 on are written out. -/
def wire : Style := ⟨some (-5, 15), true, .toEven⟩

/-- Numbers in messages: no exponent, however long, and no point without digits after it. -/
def prose : Style := ⟨none, false, .upward⟩

def positionally (s : Style) (d : Digits) : List Char :=
  let cs := d.chars
  if 0 ≤ d.scale then
    cs ++ List.replicate d.scale.toNat '0' ++ (if s.keepsPoint then ['.', '0'] else [])
  else if 0 ≤ d.leading then
    let whole := d.leading.toNat + 1
    cs.take whole ++ '.' :: cs.drop whole
  else
    '0' :: '.' :: List.replicate (-d.leading - 1).toNat '0' ++ cs

/-- One digit before the point, and a signed exponent. -/
def scientifically (d : Digits) : List Char :=
  let mantissa := match d.chars with
    | [] => []
    | [c] => [c]
    | c :: rest => c :: '.' :: rest
  let sign := if d.leading < 0 then '-' else '+'
  mantissa ++ 'e' :: sign :: Nat.toDigits 10 d.leading.natAbs

def layOut (s : Style) (d : Digits) : List Char :=
  match s.positional with
  | none => s.positionally d
  | some (least, greatest) =>
      if least ≤ d.leading ∧ d.leading ≤ greatest then s.positionally d else scientifically d

def write (s : Style) (x : Float) : String :=
  match Binary.ofFloat x with
  | .nan => "NaN"
  | .infinite negative => if negative then "-inf" else "inf"
  | .finite negative significand exponent =>
      let body :=
        if significand = 0 then s.positionally ⟨0, 0⟩
        else s.layOut ((Cell.of significand exponent).shortest s.tie)
      String.ofList (if negative then '-' :: body else body)

end Style
end Decimal
end LayoutAudit
