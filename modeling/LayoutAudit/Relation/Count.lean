import LayoutAudit.Range
import LayoutAudit.Relation.Presence

/-!
# Relation.Count — how many elements a group has

* `Tally`, `Relation.counts` — the number of elements, or of visible ones, passes a test.
-/

namespace LayoutAudit

open Json (Value)

/-- Which elements of a group are counted. -/
inductive Tally where
  | every
  | visible
  deriving DecidableEq, Repr, Inhabited

namespace Tally

def relation : Tally → String
  | every => "count_is"
  | visible => "amount_of_visible"

def phrase : Tally → String
  | every => "element(s)"
  | visible => "visible element(s)"

def includes (tally : Tally) (e : Element) : Bool :=
  match tally with
  | every => true
  | visible => e.visible

def count (tally : Tally) (g : Group) : Nat := g.items.countP tally.includes

end Tally

namespace Relation

/-- The number of elements passes the test. -/
def counts (tally : Tally) (range : Range) (g : Group) : List Violation :=
  let count := tally.count g
  require (range.admits (Float.ofNat count)) <|
    .detailed tally.relation
      (quote g.selector ++ " has " ++ toString count ++ " " ++ tally.phrase ++ ", expected " ++
        range.text)
      [("count", .nat count), ("expected", range.encode)]

end Relation
end LayoutAudit
