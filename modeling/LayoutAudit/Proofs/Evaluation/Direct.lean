import LayoutAudit.Evaluation
import LayoutAudit.Proofs.Scope.Coherence

/-!
# Proofs.Evaluation.Direct — the violations of a spec, constraint by constraint

A report lists the violations of one constraint after the other, as if each constraint were checked
on its own and every reference in it were resolved anew.

* `Spec.constraintsIn` — the constraints that the factories register on an occasion;
* `Spec.violationsOf` — what is wrong with one constraint;
* `Spec.violations_evaluate` — a report is the violations of its constraints, in order.
-/

namespace LayoutAudit

namespace Constraint

variable (find : ElementRef → Element) (findAll : GroupRef → Group)

@[simp] theorem answer_checkAll (around : Surroundings) (cs : List Constraint) :
    (checkAll around cs).answer find findAll =
      cs.flatMap fun c => (c.check around).answer find findAll := by
  induction cs with
  | nil => rfl
  | cons c rest ih =>
      simp only [checkAll, Query.answer_bind, Query.answer_pure, ih, List.flatMap_cons]

end Constraint

namespace Spec

variable (s : Spec) (m : Measurement)

/-- The constraints that the factories register, one factory after the other. -/
def constraintsIn (context : Context) : List Constraint :=
  s.factories.flatMap fun factory =>
    ((factory context).answer (s.elementIn m) (s.groupIn m)).flatten

/-- The violations of one constraint; every reference is resolved anew. -/
def violationsOf (c : Constraint) : List Violation :=
  (c.check []).answer (s.elementIn m) (s.groupIn m)

theorem violationsIn_eq_flatMap (context : Context) :
    s.violationsIn m context = (s.constraintsIn m context).flatMap (s.violationsOf m) := by
  -- A factory may look references up before it answers; its answer is the same in any scope.
  have hfactory (factory : Factory) :
      (do Constraint.checkAll [] (← factory context).flatten).answer (s.elementIn m)
          (s.groupIn m) =
        (((factory context).answer (s.elementIn m) (s.groupIn m)).flatten).flatMap
          (s.violationsOf m) := by
    simp only [Query.answer_bind, Constraint.answer_checkAll]
    rfl
  simp only [violationsIn, inspect, constraintsIn, Query.answer_bind, Query.answer_pure,
    Query.answer_traverse, hfactory, List.flatMap_assoc]
  rfl

/-- What the scope of an evaluation remembers makes no difference to the report. -/
theorem violations_evaluate (o : Occasion) :
    (s.evaluate m o).violations =
      (s.constraintsIn m (o.context m)).flatMap (s.violationsOf m) := by
  have hrun : (s.evaluate m o).violations = s.violationsIn m (o.context m) :=
    (Scope.coherent_start s m).run (s.inspect (o.context m))
  rw [hrun, violationsIn_eq_flatMap]

end Spec
end LayoutAudit
