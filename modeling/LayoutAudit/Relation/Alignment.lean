import LayoutAudit.Range
import LayoutAudit.Relation.Presence

/-!
# Relation.Alignment — lines that two elements share

* `Guide` — the lines of an element: its edges and its two middles;
* `Relation.aligned` — a line of two elements differs by no more than a tolerance;
* `Axis`, `Relation.centered` — one element sits in the middle of another.
-/

namespace LayoutAudit

open Json (Value)
open Wire (Node Reading)

inductive Guide where
  | left
  | right
  | top
  | bottom
  | centerX
  | centerY
  deriving DecidableEq, Repr, Inhabited

namespace Guide

def name : Guide → String
  | left => "left"
  | right => "right"
  | top => "top"
  | bottom => "bottom"
  | centerX => "center_x"
  | centerY => "center_y"

def position (guide : Guide) (e : Element) : Float :=
  match guide with
  | left => e.left
  | right => e.right
  | top => e.top
  | bottom => e.bottom
  | centerX => e.centerX
  | centerY => e.centerY

def all : List Guide := [left, right, top, bottom, centerX, centerY]

def ofName? (name : String) : Option Guide := all.find? (·.name == name)

def encode (guide : Guide) : Value := .string guide.name

def decode (n : Node) : Reading Guide := do
  Node.expect (ofName? (← n.asVariant (all.map name)))

end Guide

inductive Axis where
  | horizontal
  | vertical
  | both
  deriving DecidableEq, Repr, Inhabited

namespace Axis

def name : Axis → String
  | horizontal => "horizontal"
  | vertical => "vertical"
  | both => "both"

def all : List Axis := [horizontal, vertical, both]

def ofName? (name : String) : Option Axis := all.find? (·.name == name)

def encode (axis : Axis) : Value := .string axis.name

def decode (n : Node) : Reading Axis := do
  Node.expect (ofName? (← n.asVariant (all.map name)))

/-- The single axes that are looked at, each with the middle line across it. -/
def middles : Axis → List (String × Guide)
  | horizontal => [("horizontal", .centerX)]
  | vertical => [("vertical", .centerY)]
  | both => [("horizontal", .centerX), ("vertical", .centerY)]

end Axis

namespace Relation

def alignedName (guide : Guide) : String := "aligned." ++ guide.name

/-- A line of `a` and the same line of `b` differ by no more than the tolerance. -/
def aligned (guide : Guide) (tolerance : Float) (a b : Element) : List Violation :=
  let diff := (guide.position a - guide.position b).abs
  whenPresent (alignedName guide) [a, b] <|
    require (diff ≤ tolerance) <|
      .detailed (alignedName guide)
        (quote a.selector ++ " and " ++ quote b.selector ++ " are misaligned on " ++ guide.name ++
          " by " ++ numberText diff ++ " (tolerance " ++ numberText tolerance ++ ")")
        [("diff", .float diff), ("tolerance", .float tolerance)]

/-- What is wrong along one axis: only an offset beyond the tolerance is. -/
def centeredAlong (label : String) (middle : Guide) (tolerance : Float) (a b : Element) :
    List Violation :=
  let offset := middle.position a - middle.position b
  require (!(offset.abs > tolerance)) <|
    .detailed ("centered_in." ++ label)
      (quote a.selector ++ " is off-center in " ++ quote b.selector ++ " " ++ label ++ "ly by " ++
        numberText offset)
      [("offset", .float offset), ("tolerance", .float tolerance)]

/-- The middle of `a` is no further than the tolerance from the middle of `b`. -/
def centered (axis : Axis) (tolerance : Float) (a b : Element) : List Violation :=
  whenPresent "centered_in" [a, b] <|
    axis.middles.flatMap fun (label, middle) => centeredAlong label middle tolerance a b

end Relation
end LayoutAudit
