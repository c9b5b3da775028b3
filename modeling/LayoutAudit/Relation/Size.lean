import LayoutAudit.Range
import LayoutAudit.Relation.Presence

/-!
# Relation.Size — how large elements are

* `Quantity`, `Relation.measures` — a quantity of one element passes a test;
* `Dimension`, `Relation.same` — two elements agree in a dimension.
-/

namespace LayoutAudit

open Json (Value)

inductive Quantity where
  | width
  | height
  | aspectRatio
  deriving DecidableEq, Repr, Inhabited

namespace Quantity

def relation : Quantity → String
  | width => "width_is"
  | height => "height_is"
  | aspectRatio => "aspect_ratio"

def phrase : Quantity → String
  | width => "width"
  | height => "height"
  | aspectRatio => "aspect ratio"

/-- The quantity of an element; without a height there is no ratio. -/
def measure (quantity : Quantity) (e : Element) : Option Float :=
  match quantity with
  | width => some e.width
  | height => some e.height
  | aspectRatio => if e.height == 0.0 then none else some (e.width / e.height)

end Quantity

inductive Dimension where
  | width
  | height
  deriving DecidableEq, Repr, Inhabited

namespace Dimension

def name : Dimension → String
  | width => "width"
  | height => "height"

def relation (d : Dimension) : String := "same_" ++ d.name

def extent (d : Dimension) (e : Element) : Float :=
  match d with
  | width => e.width
  | height => e.height

end Dimension

namespace Relation

/-- A quantity of the element can be measured and passes the test. -/
def measures (quantity : Quantity) (range : Range) (e : Element) : List Violation :=
  whenPresent quantity.relation [e] <|
    match quantity.measure e with
    | some x =>
        require (range.admits x) <|
          .detailed quantity.relation
            (quote e.selector ++ " " ++ quantity.phrase ++ " is " ++ numberText x ++
              ", expected " ++ range.text)
            [("actual", .float x), ("expected", range.encode)]
    | none =>
        [.plain quantity.relation
          (quote e.selector ++ " " ++ quantity.phrase ++ " cannot be measured")]

/-- The elements differ in the dimension by no more than the tolerance. -/
def same (d : Dimension) (tolerance : Float) (a b : Element) : List Violation :=
  let diff := (d.extent a - d.extent b).abs
  whenPresent d.relation [a, b] <|
    require (diff ≤ tolerance) <|
      .detailed d.relation
        (quote a.selector ++ " and " ++ quote b.selector ++ " " ++ d.name ++ "s differ by " ++
          numberText diff ++ " (tolerance " ++ numberText tolerance ++ ")")
        [("diff", .float diff), ("tolerance", .float tolerance)]

end Relation
end LayoutAudit
