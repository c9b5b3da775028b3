import LayoutAudit.Text.Character

/-!
# Wire.Scalar — untyped scalars

A scalar of a YAML document is text with a style and perhaps a tag; what it means is decided by who
reads it.  This file holds the readings of the text: null, truth values, integers in four bases, and
decimal numbers.

* `Wire.Scalar` — the scalar;
* `Scalar.isNullWord`, `Scalar.bool?`, `Scalar.natural?`, `Scalar.negative?`, `Scalar.number?` —
  the readings.
-/

namespace LayoutAudit
namespace Wire

/-- How a scalar is written.  Quoted and folded scalars are never anything but text. -/
inductive ScalarStyle where
  | plain
  | literal
  | quoted
  deriving DecidableEq, Repr, Inhabited

/-- A scalar without a type. -/
structure Scalar where
  text : String
  style : ScalarStyle
  tag : Option String
  deriving DecidableEq, Repr, Inhabited

namespace Scalar

open Text (digits?)

/-- The tags that name a core type. -/
def nullTag : String := "tag:yaml.org,2002:null"

@[inherit_doc nullTag]
def boolTag : String := "tag:yaml.org,2002:bool"

@[inherit_doc nullTag]
def integerTag : String := "tag:yaml.org,2002:int"

@[inherit_doc nullTag]
def numberTag : String := "tag:yaml.org,2002:float"

def isNullWord (text : String) : Bool :=
  text ∈ ["null", "Null", "NULL", "~"]

def bool? (text : String) : Option Bool :=
  if text ∈ ["true", "True", "TRUE"] then some true
  else if text ∈ ["false", "False", "FALSE"] then some false
  else none

/-- Zeros in front of more digits make a text, not a number. -/
def hasIdleZero (cs : List Char) : Bool :=
  let body := match cs with
    | '-' :: rest => rest
    | '+' :: rest => rest
    | rest => rest
  match body with
  | '0' :: c :: rest => (c :: rest).all Char.isDigit
  | _ => false

def baseMark? : List Char → Option (Nat × List Char)
  | '0' :: 'x' :: rest => some (16, rest)
  | '0' :: 'o' :: rest => some (8, rest)
  | '0' :: 'b' :: rest => some (2, rest)
  | _ => none

/-- Drops one plus sign. -/
def dropPlus : List Char → List Char
  | '+' :: rest => rest
  | cs => cs

def natural? (bound : Nat) (cs : List Char) : Option Nat :=
  let body := dropPlus cs
  let marked := (baseMark? body).bind fun m => (digits? m.1 m.2).filter (· < bound)
  match marked with
  | some n => some n
  | none => if hasIdleZero cs then none else (digits? 10 body).filter (· < bound)

/-- The magnitude, at most `bound`, of a number written with a minus sign. -/
def negative? (bound : Nat) : List Char → Option Nat
  | '-' :: body =>
      let marked := (baseMark? body).bind fun m => (digits? m.1 m.2).filter (· ≤ bound)
      match marked with
      | some n => some n
      | none => if hasIdleZero body then none else (digits? 10 body).filter (· ≤ bound)
  | _ => none

/-- A decimal number `digits · 10 ^ exponent`: digits with at most one point among them, at least
one digit, and perhaps an exponent. -/
def decimal? (cs : List Char) : Option (Nat × Int) := do
  let whole := cs.takeWhile Char.isDigit
  let rest := cs.dropWhile Char.isDigit
  let (fraction, rest) := match rest with
    | '.' :: more => (more.takeWhile Char.isDigit, more.dropWhile Char.isDigit)
    | more => ([], more)
  let n ← digits? 10 (whole ++ fraction)
  let scale : Int := -(fraction.length : Int)
  match rest with
  | [] => return (n, scale)
  | e :: rest =>
      if e ≠ 'e' ∧ e ≠ 'E' then none
      else match rest with
        | '-' :: more => (digits? 10 more).map fun k => (n, scale - (k : Int))
        | more => (digits? 10 (dropPlus more)).map fun k => (n, scale + (k : Int))

/-- The nearest double, unless the number is too large for one. -/
def nearest? (n : Nat) (exponent : Int) : Option Float :=
  if n = 0 then some 0.0
  else
    let leading : Int := (Nat.toDigits 10 n).length + exponent
    if 310 < leading then none
    else if leading < -400 then some 0.0
    else
      let x := match exponent with
        | .ofNat k => OfScientific.ofScientific n false k
        | .negSucc k => OfScientific.ofScientific n true (k + 1)
      if x.isFinite then some x else none

/-- A number that need not be an integer; the infinities and the undefined number have words. -/
def number? (text : String) : Option Float :=
  let cs := text.toList
  if text ∈ [".inf", ".Inf", ".INF", "+.inf", "+.Inf", "+.INF"] then some (1.0 / 0.0)
  else if text ∈ ["-.inf", "-.Inf", "-.INF"] then some (-1.0 / 0.0)
  else if text ∈ [".nan", ".NaN", ".NAN"] then some (0.0 / 0.0)
  else
    match cs with
    | '-' :: body => (decimal? body).bind fun d => (nearest? d.1 d.2).map (- ·)
    | _ => (decimal? (dropPlus cs)).bind fun d => nearest? d.1 d.2

end Scalar
end Wire
end LayoutAudit
