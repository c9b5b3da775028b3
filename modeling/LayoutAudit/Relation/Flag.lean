import LayoutAudit.Relation.Presence

/-!
# Relation.Flag — what is there and what is shown

* `Flag`, `Relation.flagged` — an element is visible, hidden, present or absent.
-/

namespace LayoutAudit

open Json (Value)

inductive Flag where
  | visible
  | hidden
  | present
  | absent
  deriving DecidableEq, Repr, Inhabited

namespace Flag

def name : Flag → String
  | visible => "visible"
  | hidden => "hidden"
  | present => "present"
  | absent => "absent"

/-- Is the element in that state?  What is not there is hidden unless it was flagged visible. -/
def holds (flag : Flag) (e : Element) : Bool :=
  match flag with
  | visible => e.present && e.visible
  | hidden => !e.visible
  | present => e.present
  | absent => !e.present

end Flag

namespace Relation

/-- The element is in that state. -/
def flagged (flag : Flag) (e : Element) : List Violation :=
  require (flag.holds e) <|
    .detailed flag.name (quote e.selector ++ " should be " ++ flag.name)
      [("present", .bool e.present), ("visible", .bool e.visible)]

end Relation
end LayoutAudit
