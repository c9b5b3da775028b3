import LayoutAudit.Report
import LayoutAudit.Scope

/-!
# Evaluation — from a measurement to a report

* `Occasion` — the names of an evaluation, and perhaps a class of viewports;
* `Occasion.context` — what the factories get to see;
* `Spec.evaluate` — the report on one measurement.
-/

namespace LayoutAudit

/-- When and where a measurement was taken. -/
structure Occasion where
  scenario : String
  snapshot : String
  viewTag : Option String
  /-- Stands in for the class of the measured width. -/
  viewportClass : Option ViewportClass
  deriving Inhabited

def Occasion.unnamed : Occasion := ⟨"", "", none, none⟩

def Measurement.viewSize (m : Measurement) : ViewSize := ⟨m.view.width, m.view.height⟩

/-- The occasion as factories see it. -/
def Occasion.context (o : Occasion) (m : Measurement) : Context where
  viewSize := m.viewSize
  viewportClass := o.viewportClass.getD (.ofWidth m.viewSize.width)
  scenario := o.scenario
  snapshot := o.snapshot
  viewTag := o.viewTag

def Context.report (c : Context) (violations : List Violation) : Report :=
  ⟨c.scenario, c.snapshot, c.viewTag, c.viewSize, c.viewportClass, violations⟩

/-- Checks a spec on a measurement; each reference is resolved once. -/
def Spec.evaluate (s : Spec) (m : Measurement) (o : Occasion) : Report :=
  let context := o.context m
  context.report (Scope.run (s.inspect context) (Scope.start s m)).1

end LayoutAudit
