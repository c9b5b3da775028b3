import LayoutAudit.Range
import LayoutAudit.Relation.Presence

/-!
# Relation.Position — one element beside another

* `Side` — the four sides, with the signed gap on that side;
* `Relation.beside` — the gap on one side passes a test;
* `Relation.near` — the gaps on several sides pass tests, and none of them is an overlap.
-/

namespace LayoutAudit

open Json (Value)
open Wire (Node Reading)

/-- The side of the second element on which the first one lies. -/
inductive Side where
  | above
  | below
  | left
  | right
  deriving DecidableEq, Repr, Inhabited

namespace Side

def name : Side → String
  | above => "above"
  | below => "below"
  | left => "left"
  | right => "right"

def phrase : Side → String
  | above => "above"
  | below => "below"
  | left => "left of"
  | right => "right of"

def relation : Side → String
  | above => "above"
  | below => "below"
  | left => "left_of"
  | right => "right_of"

/-- The distance from `a` to `b` when `a` lies on that side; it is negative when they overlap. -/
def gap (side : Side) (a b : Element) : Float :=
  match side with
  | above => b.top - a.bottom
  | below => a.top - b.bottom
  | left => b.left - a.right
  | right => a.left - b.right

def all : List Side := [above, below, left, right]

def ofName? (name : String) : Option Side := all.find? (·.name == name)

def encode (side : Side) : Value := .string side.name

def decode (n : Node) : Reading Side := do
  Node.expect (ofName? (← n.asVariant (all.map name)))

end Side

namespace Relation

def gapMessage (side : Side) (range : Range) (a b : Element) : String :=
  quote a.selector ++ " should be " ++ side.phrase ++ " " ++ quote b.selector ++ " by " ++
    range.text ++ ", but the gap is " ++ numberText (side.gap a b)

/-- `a` lies on one side of `b`, at a distance that passes the test. -/
def beside (side : Side) (range : Range) (a b : Element) : List Violation :=
  whenPresent side.relation [a, b] <|
    require (range.admits (side.gap a b)) <|
      .detailed side.relation (gapMessage side range a b)
        [("diff", .float (side.gap a b)), ("expected", range.encode)]

def overlapOn (side : Side) (a b : Element) : Violation :=
  .detailed ("near." ++ side.name ++ ".overlap")
    (quote a.selector ++ " overlaps " ++ quote b.selector ++ " by " ++
      numberText (-side.gap a b) ++ " where it should be " ++ side.phrase ++ " it")
    [("direction", side.encode), ("diff", .float (side.gap a b))]

/-- The gap on a side fails its test. -/
def gapOn (side : Side) (range : Range) (a b : Element) : Violation :=
  .detailed ("near." ++ side.name ++ ".gap") (gapMessage side range a b)
    [("direction", side.encode), ("diff", .float (side.gap a b)), ("expected", range.encode)]

/-- What is wrong on one side: an overlap, whatever the test says, or a gap that fails it. -/
def nearOn (side : Side) (range : Range) (a b : Element) : List Violation :=
  if side.gap a b < 0.0 then [overlapOn side a b]
  else require (range.admits (side.gap a b)) (gapOn side range a b)

/-- The violation of a relation that names no side. -/
def nowhere : Violation := .plain "near" "near() requires at least one direction"

/-- `a` lies on all of these sides of `b`. -/
def near (sides : List (Side × Range)) (a b : Element) : List Violation :=
  whenPresent "near" [a, b] (sides.flatMap fun (side, range) => nearOn side range a b)

end Relation
end LayoutAudit
