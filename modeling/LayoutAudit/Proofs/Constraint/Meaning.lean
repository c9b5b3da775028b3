import LayoutAudit.Proofs.Evaluation.Direct

/-!
# Proofs.Constraint.Meaning — constraints as formulas

Read as a formula, a relation says that it finds nothing wrong, and the statements about groups are
quantifiers.  The quantifiers range over the elements of a group, and what stands inside them may
speak of the elements of all quantifiers around it.

* `Constraint.Holds`, `Constraint.HoldAll` — the meaning of constraints, by recursion on them;
* `Constraint.check_nil_iff` — nothing is wrong exactly if the constraint holds;
* `Spec.isClean_evaluate_iff` — a report is clean exactly if all constraints of the spec hold.
-/

namespace LayoutAudit

/-- The group that an operand stands for. -/
def GroupOperand.denotes (findAll : GroupRef → Group) : GroupOperand → Group
  | group g => g
  | declared ref => findAll ref

namespace Constraint

variable (find : ElementRef → Element) (findAll : GroupRef → Group)

/-! ## The meaning of constraints -/

mutual
/-- Is a constraint true of the elements around it? -/
def Holds (around : Surroundings) : Constraint → Prop
  | everyOf g body => ∀ e ∈ (g.denotes findAll).items, HoldAll (e :: around) (body e)
  | someOf g body => ∃ e ∈ (g.denotes findAll).items, HoldAll (e :: around) (body e)
  | noneOf g body => ¬ ∃ e ∈ (g.denotes findAll).items, HoldAll (e :: around) (body e)
  | c => (c.check around).answer find findAll = []

def HoldAll (around : Surroundings) : List Constraint → Prop
  | [] => True
  | c :: rest => Holds around c ∧ HoldAll around rest
end

theorem holdAll_iff (around : Surroundings) (cs : List Constraint) :
    HoldAll find findAll around cs ↔ ∀ c ∈ cs, Holds find findAll around c := by
  induction cs with
  | nil => simp [HoldAll]
  | cons c rest ih => simp [HoldAll, ih]

/-! ## What the checks of quantifiers find -/

@[simp] theorem answer_resolve (g : GroupOperand) :
    g.resolve.answer find findAll = g.denotes findAll := by
  cases g <;> rfl

theorem numbered_eq_nil_iff (found : List (List Violation)) :
    numbered found = [] ↔ ∀ vs ∈ found, vs = [] := by
  simp only [numbered, List.flatMap_eq_nil_iff, List.map_eq_nil_iff, Prod.forall]
  constructor
  · intro h vs hvs
    rcases List.mem_iff_getElem.1 hvs with ⟨i, hi, rfl⟩
    exact h found[i] i (List.mem_zipIdx_iff_getElem?.2 (List.getElem?_eq_getElem hi))
  · intro h vs i hvs
    exact h vs (List.fst_mem_of_mem_zipIdx hvs)

/-- The search stops at an element exactly if nothing is wrong with one of them. -/
theorem isSome_untilClean_iff (check : Element → Query (List Violation)) (es : List Element) :
    ((untilClean check es).answer find findAll).2.isSome = true ↔
      ∃ e ∈ es, (check e).answer find findAll = [] := by
  induction es with
  | nil => simp [untilClean]
  | cons e rest ih =>
      -- The search goes on only behind an element with which something is wrong.
      by_cases hclean : (check e).answer find findAll = []
      · simp [untilClean, hclean]
      · simp [untilClean, hclean, ih]

theorem check_everyOf_nil_iff (around : Surroundings) (g : GroupOperand)
    (body : Element → List Constraint) :
    ((everyOf g body).check around).answer find findAll = [] ↔
      ∀ e ∈ (g.denotes findAll).items,
        (checkAll (e :: around) (body e)).answer find findAll = [] := by
  simp [check, numbered_eq_nil_iff]

theorem check_someOf_nil_iff (around : Surroundings) (g : GroupOperand)
    (body : Element → List Constraint) :
    ((someOf g body).check around).answer find findAll = [] ↔
      ∃ e ∈ (g.denotes findAll).items,
        (checkAll (e :: around) (body e)).answer find findAll = [] := by
  rw [← isSome_untilClean_iff]
  rcases hsearch : (untilClean (fun e => checkAll (e :: around) (body e))
    (g.denotes findAll).items).answer find findAll with ⟨found, clean⟩
  cases clean <;> simp [check, hsearch]

theorem check_noneOf_nil_iff (around : Surroundings) (g : GroupOperand)
    (body : Element → List Constraint) :
    ((noneOf g body).check around).answer find findAll = [] ↔
      ¬ ∃ e ∈ (g.denotes findAll).items,
        (checkAll (e :: around) (body e)).answer find findAll = [] := by
  rw [← isSome_untilClean_iff]
  rcases hsearch : (untilClean (fun e => checkAll (e :: around) (body e))
    (g.denotes findAll).items).answer find findAll with ⟨found, clean⟩
  cases clean <;> simp [check, hsearch]

/-! ## Checking decides the meaning -/

mutual
/-- By recursion on the constraint; the induction is for all surroundings, since the body of a
quantifier sees one element more. -/
theorem check_nil_iff (around : Surroundings) (c : Constraint) :
    (c.check around).answer find findAll = [] ↔ c.Holds find findAll around := by
  cases c with
  | everyOf g body =>
      rw [check_everyOf_nil_iff, Holds]
      exact forall₂_congr fun e _ => checkAll_nil_iff (e :: around) (body e)
  | someOf g body =>
      rw [check_someOf_nil_iff, Holds]
      exact exists_congr fun e => and_congr_right fun _ => checkAll_nil_iff (e :: around) (body e)
  | noneOf g body =>
      rw [check_noneOf_nil_iff, Holds]
      exact not_congr <| exists_congr fun e => and_congr_right fun _ =>
        checkAll_nil_iff (e :: around) (body e)
  | _ =>
      -- A relation holds exactly if its check finds nothing: that is what `Holds` says.
      exact Iff.rfl

theorem checkAll_nil_iff (around : Surroundings) (cs : List Constraint) :
    (checkAll around cs).answer find findAll = [] ↔ HoldAll find findAll around cs := by
  cases cs with
  | nil => simp [HoldAll]
  | cons c rest =>
      rw [HoldAll, ← check_nil_iff around c, ← checkAll_nil_iff around rest]
      simp [checkAll]
end

/-- On every group, an empty one too, something is wrong with exactly one of the two. -/
theorem someOf_nil_iff_noneOf_ne_nil (around : Surroundings) (g : GroupOperand)
    (body : Element → List Constraint) :
    ((someOf g body).check around).answer find findAll = [] ↔
      ((noneOf g body).check around).answer find findAll ≠ [] := by
  rw [ne_eq, check_someOf_nil_iff, check_noneOf_nil_iff, Classical.not_not]

end Constraint

/-- A report is clean exactly if every constraint that the factories register is true, read as a
formula about what was measured.  A list is true if all its members are.  Of two statements that
some element of a group and that none of them satisfies a body, exactly one is found to be wrong. -/
theorem Spec.isClean_evaluate_iff (s : Spec) (m : Measurement) :
    (∀ o : Occasion, (s.evaluate m o).isClean = true ↔
      ∀ c ∈ s.constraintsIn m (o.context m), c.Holds (s.elementIn m) (s.groupIn m) []) ∧
    (∀ (around : Surroundings) (cs : List Constraint),
      Constraint.HoldAll (s.elementIn m) (s.groupIn m) around cs ↔
        ∀ c ∈ cs, c.Holds (s.elementIn m) (s.groupIn m) around) ∧
    (∀ (around : Surroundings) (g : GroupOperand) (body : Element → List Constraint),
      ((Constraint.someOf g body).check around).answer (s.elementIn m) (s.groupIn m) = [] ↔
        ((Constraint.noneOf g body).check around).answer (s.elementIn m) (s.groupIn m) ≠ []) := by
  refine ⟨?_, ?_, ?_⟩
  · intro o
    have hclean : (s.evaluate m o).isClean = true ↔ (s.evaluate m o).violations = [] := by
      simp [Report.isClean]
    rw [hclean, Spec.violations_evaluate, List.flatMap_eq_nil_iff]
    exact forall₂_congr fun c _ => Constraint.check_nil_iff (s.elementIn m) (s.groupIn m) [] c
  · exact Constraint.holdAll_iff (s.elementIn m) (s.groupIn m)
  · exact Constraint.someOf_nil_iff_noneOf_ne_nil (s.elementIn m) (s.groupIn m)

end LayoutAudit
