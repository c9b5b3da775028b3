import LayoutAudit.Grid.Table

/-!
# Grid.Spacing — elements at equal distances

* `Course` — along a line or down a column;
* `Relation.evenlySpaced` — all gaps differ from the first one by no more than a tolerance.
-/

namespace LayoutAudit

open Json (Value)

/-- The direction in which elements follow one another. -/
inductive Course where
  | across
  | down
  deriving DecidableEq, Repr, Inhabited

namespace Course

def relation : Course → String
  | across => "equal_gap_horizontal"
  | down => "equal_gap_vertical"

def before (course : Course) (a b : Element) : Bool :=
  match course with
  | across => Grid.leftOf a b
  | down => Grid.topOf a b

def gap (course : Course) (a b : Element) : Float :=
  match course with
  | across => b.left - a.right
  | down => b.top - a.bottom

def gaps (course : Course) (es : List Element) : List Float :=
  (Grid.neighbours (es.mergeSort course.before)).map fun (a, b) => course.gap a b

end Course

namespace Relation

/-- A gap is no further than the tolerance from the first one. -/
def gapLike (course : Course) (tolerance : Float) (selector : String) (baseline : Float) (i : Nat)
    (gap : Float) : List Violation :=
  require (!((gap - baseline).abs > tolerance)) <|
    .detailed (indexed course.relation i)
      ("gap " ++ toString i ++ " in " ++ quote selector ++ " is " ++ numberText gap ++
        ", expected " ++ numberText baseline ++ " (first gap) +/- " ++ numberText tolerance)
      [("index", .nat i), ("diff", .float gap), ("baseline", .float baseline)]

/-- All gaps are like the first one. -/
def evenlySpaced (course : Course) (tolerance : Float) (g : Group) : List Violation :=
  match course.gaps g.items with
  | [] => []
  | baseline :: rest =>
      (rest.zipIdx 1).flatMap fun (gap, i) => gapLike course tolerance g.selector baseline i gap

end Relation
end LayoutAudit
