import LayoutAudit.Range
import LayoutAudit.Relation.Presence

/-!
# Relation.Containment — one element within another, or over it

* `Edges` — a test for each edge; one that is not given asks for no bleeding past the edge;
* `Relation.inside` — the gaps inward from the edges pass the tests;
* `Relation.overlaps`, `Relation.apart` — the boxes share some area, or none.
-/

namespace LayoutAudit

open Json (Value)

inductive Edge where
  | top
  | right
  | bottom
  | left
  deriving DecidableEq, Repr, Inhabited

namespace Edge

def name : Edge → String
  | top => "top"
  | right => "right"
  | bottom => "bottom"
  | left => "left"

/-- All edges, in the order in which they are reported. -/
def all : List Edge := [top, right, bottom, left]

/-- How far the edge of `a` lies inward from the same edge of `b`. -/
def inset (edge : Edge) (a b : Element) : Float :=
  match edge with
  | top => a.top - b.top
  | right => b.right - a.right
  | bottom => b.bottom - a.bottom
  | left => a.left - b.left

end Edge

structure Edges where
  top : Option Range
  right : Option Range
  bottom : Option Range
  left : Option Range
  deriving BEq, Inhabited

namespace Edges

def none : Edges := ⟨.none, .none, .none, .none⟩

def all (range : Range) : Edges := ⟨some range, some range, some range, some range⟩

def given (edges : Edges) : Edge → Option Range
  | .top => edges.top
  | .right => edges.right
  | .bottom => edges.bottom
  | .left => edges.left

/-- The test for an edge: the one that is given, or that the edge is not crossed. -/
def test (edges : Edges) (edge : Edge) : Range := (edges.given edge).getD (.atLeast 0.0)

end Edges

namespace Relation

def insideAt (edge : Edge) (range : Range) (a b : Element) : List Violation :=
  require (range.admits (edge.inset a b)) <|
    .detailed ("inside." ++ edge.name)
      (quote a.selector ++ " " ++ edge.name ++ " edge is " ++ numberText (edge.inset a b) ++
        " from " ++ quote b.selector ++ ", expected " ++ range.text)
      [("edge", .string edge.name), ("diff", .float (edge.inset a b)),
       ("expected", range.encode)]

/-- `a` lies within `b`. -/
def inside (edges : Edges) (a b : Element) : List Violation :=
  whenPresent "inside" [a, b] <|
    Edge.all.flatMap fun edge => insideAt edge (edges.test edge) a b

/-- The boxes of `a` and `b` share some area. -/
def overlaps (a b : Element) : List Violation :=
  whenPresent "overlaps" [a, b] <|
    require (a.box.sharedArea b.box > 0.0) <|
      .plain "overlaps" (quote a.selector ++ " should overlap " ++ quote b.selector)

/-- The boxes of `a` and `b` share no area. -/
def apart (a b : Element) : List Violation :=
  let area := a.box.sharedArea b.box
  whenPresent "no_overlap" [a, b] <|
    require (area == 0.0) <|
      .detailed "no_overlap"
        (quote a.selector ++ " overlaps " ++ quote b.selector ++ " (" ++ numberText area ++ " px²)")
        [("area", .float area)]

end Relation
end LayoutAudit
