import LayoutAudit.Run.Crew
import LayoutAudit.Settings

/-!
# Run.Outcome — from settings to reports

* `Run`, `Run.prepare` — a run that can begin: nothing it was asked for is amiss;
* `Run.journey` — the journeys of its entries;
* `Outcome` — the items of a run, with what they add up to;
* `exitStatus` — what a run tells whoever started it.
-/

namespace LayoutAudit

structure Run where
  settings : Settings
  registry : Registry
  plan : Plan

namespace Run

/-- Registers the scripts, finds the viewports and makes the plan. -/
def prepare (s : Settings) (r : Registry) : Attempt Run := do
  s.validate
  let r ← s.scripts.foldlM Registry.addScript r
  let viewports ← s.resolveViewports.mapError .viewport
  return ⟨s, r, ← Plan.build r s.scenarios viewports⟩

def journey (run : Run) : Plan.Entry → Journey := Journey.ofEntry run.registry

def workers (run : Run) (processors : Nat) : Nat :=
  Plan.workers run.settings.workers processors run.plan.size

def crew (run : Run) (processors : Nat) : Crew :=
  Crew.assemble run.plan (run.workers processors)

end Run

/-- The items of a run, in the order of the plan. -/
structure Outcome where
  items : List Item
  deriving Inhabited

namespace Outcome

def reports (o : Outcome) : List Report := o.items.flatMap (·.reports)

def violationCount (o : Outcome) : Nat := (o.reports.flatMap (·.violations)).length

def hasViolations (o : Outcome) : Bool := o.reports.any (!·.isClean)

end Outcome

/-- What a run tells whoever started it: 0 if it found nothing, 1 if it found something, 2 if it
did not come about. -/
def exitStatus (found : Option Bool) : Nat :=
  match found with
  | some false => 0
  | some true => 1
  | none => 2

end LayoutAudit
