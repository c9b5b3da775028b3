import LayoutAudit.Spec

/-!
# Spec.Clause — constraints under conditions, as data

* `Condition` — a condition on the occasion or on what was measured;
* `Clause` — constraints that apply when all conditions of the clause hold;
* `Clause.factory` — the constraints of all clauses that apply, in order.
-/

namespace LayoutAudit

inductive Condition where
  | classIn (classes : List ViewportClass)
  | scenario (name : String)
  | snapshot (name : String)
  | viewTag (tag : Option String)
  | widthFrom (width : Float)
  | heightTo (height : Float)
  | found (ref : ElementRef)
  | itemsFrom (ref : GroupRef) (least : Nat)

def Condition.holds (context : Context) : Condition → Query Bool
  | classIn classes => pure (classes.contains context.viewportClass)
  | scenario name => pure (context.scenario == name)
  | snapshot name => pure (context.snapshot == name)
  | viewTag tag => pure (context.viewTag == tag)
  | widthFrom width => pure (context.viewSize.width ≥ width)
  | heightTo height => pure (context.viewSize.height ≤ height)
  | found ref => do return (← Query.find ref).present
  | itemsFrom ref least => do return least ≤ (← Query.findAll ref).items.length

/-- Constraints under conditions; the bounds of their ranges may depend on the size of the view. -/
structure Clause where
  conditions : List Condition
  constraints : ViewSize → List Constraint

namespace Clause

def apply (context : Context) (clause : Clause) : Query (List Constraint) := do
  let met ← Query.traverse (Condition.holds context) clause.conditions
  return if met.all id then clause.constraints context.viewSize else []

/-- The constraints of all clauses that apply. -/
def factory (clauses : List Clause) : Factory := fun context => do
  return .many (← Query.traverse (apply context) clauses).flatten

end Clause
end LayoutAudit
