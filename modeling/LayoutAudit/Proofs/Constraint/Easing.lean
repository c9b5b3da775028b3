import LayoutAudit.Proofs.Constraint.Meaning
import LayoutAudit.Proofs.Relation.Easing
import LayoutAudit.Proofs.Relation.Presence

/-!
# Proofs.Constraint.Easing — looser ranges make no new violations

Two specs may differ in nothing but ranges.  If a range that stands under an even number of
statements about no element is replaced by a looser one, and a range that stands under an odd number
of them by one that it is looser than, then whatever page satisfies the first spec satisfies the
second.

* `Constraint.Eased`, `Constraint.AllEased` — constraints that differ only in such ranges;
* `Constraint.milder_check` — a page that satisfies the one satisfies the other;
* `Spec.Eased` — specs whose factories give such constraints;
* `Spec.isClean_of_eased` — where the report of the one is clean, that of the other is.
-/

namespace LayoutAudit

namespace Constraint

mutual
/-- The second constraint is the first one with other ranges: looser ones, or stricter ones where an
odd number of denials is around them. -/
inductive Eased : Polarity → Constraint → Constraint → Prop where
  | refl (p : Polarity) (c : Constraint) : Eased p c c
  | beside {p : Polarity} {r r' : Range} (side : Side) (a b : Operand) (range : r.Eased p r') :
      Eased p (.beside side a b r) (.beside side a b r')
  | near {p : Polarity} {sides sides' : List (Side × Range)} (a b : Operand)
      (ranges : List.Forall₂ (fun s s' => s'.1 = s.1 ∧ s.2.Eased p s'.2) sides sides') :
      Eased p (.near a b sides) (.near a b sides')
  | inside {p : Polarity} {edges edges' : Edges} (a b : Operand) (ranges : edges.Eased p edges') :
      Eased p (.inside a b edges) (.inside a b edges')
  | measures {p : Polarity} {r r' : Range} (a : Operand) (quantity : Quantity)
      (range : r.Eased p r') : Eased p (.measures a quantity r) (.measures a quantity r')
  | lineCount {p : Polarity} {r r' : Range} (a : Operand) (range : r.Eased p r') :
      Eased p (.lineCount a r) (.lineCount a r')
  | counts {p : Polarity} {r r' : Range} (g : GroupOperand) (tally : Tally)
      (range : r.Eased p r') : Eased p (.counts g tally r) (.counts g tally r')
  | tabular {p : Polarity} {table table' : Table} (g : GroupOperand)
      (margins : table.Eased p table') : Eased p (.tabular g table) (.tabular g table')
  | everyOf {p : Polarity} {body body' : Element → List Constraint} (g : GroupOperand)
      (all : ∀ e, AllEased p (body e) (body' e)) : Eased p (.everyOf g body) (.everyOf g body')
  | someOf {p : Polarity} {body body' : Element → List Constraint} (g : GroupOperand)
      (all : ∀ e, AllEased p (body e) (body' e)) : Eased p (.someOf g body) (.someOf g body')
  | noneOf {p : Polarity} {body body' : Element → List Constraint} (g : GroupOperand)
      (all : ∀ e, AllEased p.flip (body e) (body' e)) : Eased p (.noneOf g body) (.noneOf g body')

/-- The same of each two constraints of two lists. -/
inductive AllEased : Polarity → List Constraint → List Constraint → Prop where
  | nil (p : Polarity) : AllEased p [] []
  | cons {p : Polarity} {c c' : Constraint} {cs cs' : List Constraint} (first : Eased p c c')
      (rest : AllEased p cs cs') : AllEased p (c :: cs) (c' :: cs')
end

theorem AllEased.append {p : Polarity} :
    ∀ {cs cs' ds ds' : List Constraint}, AllEased p cs cs' → AllEased p ds ds' →
      AllEased p (cs ++ ds) (cs' ++ ds')
  | [], _, _, _, .nil _, hds => hds
  | _ :: _, _, _, _, .cons hc hcs, hds => .cons hc (hcs.append hds)

variable (find : ElementRef → Element) (findAll : GroupRef → Group)

mutual
/-- By recursion on what has been replaced.  A denial turns the polarity around, and the elements
around a constraint are the same for both. -/
theorem milder_check {p : Polarity} {c c' : Constraint} (h : Eased p c c') (around : Surroundings) :
    Relation.Milder p ((c.check around).answer find findAll)
      ((c'.check around).answer find findAll) := by
  cases h with
  | refl => exact Relation.Milder.refl p _
  | beside side a b range => simpa [check] using Relation.milder_beside side range
  | near a b ranges =>
      -- Without any side at all the relation is always found wrong.
      cases ranges with
      | nil => exact Relation.Milder.refl p _
      | cons hside hrest => simpa [check] using Relation.milder_near (.cons hside hrest)
  | inside a b ranges => simpa [check] using Relation.milder_inside ranges
  | measures a quantity range => simpa [check] using Relation.milder_measures quantity range
  | lineCount a range => simpa [check] using Relation.milder_lineCount range
  | counts g tally range => simpa [check] using Relation.milder_counts tally range
  | tabular g margins => simpa [check] using Relation.milder_tabular margins
  | everyOf g all =>
      unfold Relation.Milder
      rw [check_everyOf_nil_iff, check_everyOf_nil_iff]
      apply Polarity.Entails.all
      intro e _
      exact milder_checkAll (all e) (e :: around)
  | someOf g all =>
      unfold Relation.Milder
      rw [check_someOf_nil_iff, check_someOf_nil_iff]
      apply Polarity.Entails.any
      intro e _
      exact milder_checkAll (all e) (e :: around)
  | noneOf g all =>
      -- What satisfies less of the body satisfies more of its denial.
      unfold Relation.Milder
      rw [check_noneOf_nil_iff, check_noneOf_nil_iff]
      apply Polarity.Entails.not
      apply Polarity.Entails.any
      intro e _
      exact milder_checkAll (all e) (e :: around)

theorem milder_checkAll {p : Polarity} {cs cs' : List Constraint} (h : AllEased p cs cs')
    (around : Surroundings) :
    Relation.Milder p ((checkAll around cs).answer find findAll)
      ((checkAll around cs').answer find findAll) := by
  cases h with
  | nil => exact Relation.Milder.refl p _
  | cons first rest =>
      have hfirst := milder_check first around
      have hrest := milder_checkAll rest around
      simpa [checkAll] using hfirst.append hrest
end

end Constraint

/-! ## Specs -/

/-- The second factory gives the constraints of the first one with other ranges, whatever is looked
up on the way. -/
def Factory.Eased (f f' : Factory) : Prop :=
  ∀ (context : Context) (find : ElementRef → Element) (findAll : GroupRef → Group),
    Constraint.AllEased .asserted ((f context).answer find findAll).flatten
      ((f' context).answer find findAll).flatten

/-- What the factories give one after the other. -/
theorem Factory.allEased_flatMap {fs fs' : List Factory} (h : List.Forall₂ Factory.Eased fs fs')
    (context : Context) (find : ElementRef → Element) (findAll : GroupRef → Group) :
    Constraint.AllEased .asserted
      (fs.flatMap fun f => ((f context).answer find findAll).flatten)
      (fs'.flatMap fun f => ((f context).answer find findAll).flatten) := by
  induction h with
  | nil => exact .nil _
  | cons hf _ ih => exact (hf context find findAll).append ih

/-- The second spec is the first one with other ranges. -/
structure Spec.Eased (s s' : Spec) : Prop where
  elements : s'.elements = s.elements
  groups : s'.groups = s.groups
  frameGroups : s'.frameGroups = s.frameGroups
  factories : List.Forall₂ Factory.Eased s.factories s'.factories

namespace Spec

variable {s s' : Spec}

/-- References stand for the same, since they are declared in the same way. -/
theorem Eased.elementIn_eq (h : s.Eased s') (m : Measurement) : s'.elementIn m = s.elementIn m := by
  funext ref
  simp only [elementIn, label, selector?, declarations, h.elements, h.groups, h.frameGroups]

theorem Eased.groupIn_eq (h : s.Eased s') (m : Measurement) : s'.groupIn m = s.groupIn m := by
  funext ref
  simp only [groupIn, label, selector?, declarations, h.elements, h.groups, h.frameGroups]

theorem Eased.constraintsIn (h : s.Eased s') (m : Measurement) (context : Context) :
    Constraint.AllEased .asserted (s.constraintsIn m context) (s'.constraintsIn m context) := by
  unfold Spec.constraintsIn
  rw [h.elementIn_eq m, h.groupIn_eq m]
  exact Factory.allEased_flatMap h.factories context _ _

/-- A page that satisfies a spec satisfies every spec that is eased from it: one that differs only
in ranges, which are looser under an even number of statements about no element, and stricter under
an odd number of them. -/
theorem isClean_of_eased (h : s.Eased s') (m : Measurement) (o : Occasion)
    (hclean : (s.evaluate m o).isClean = true) : (s'.evaluate m o).isClean = true := by
  -- The constraints of all factories make one list, and the report is what is wrong with it.
  have hnil (s : Spec) : (s.evaluate m o).isClean = true ↔
      (Constraint.checkAll [] (s.constraintsIn m (o.context m))).answer (s.elementIn m)
        (s.groupIn m) = [] := by
    rw [Constraint.answer_checkAll]
    unfold Report.isClean
    rw [violations_evaluate, List.isEmpty_iff]
    rfl
  rw [hnil] at hclean ⊢
  rw [h.elementIn_eq m, h.groupIn_eq m]
  exact Constraint.milder_checkAll _ _ (h.constraintsIn m (o.context m)) [] hclean

/-- On a page that has one link, no rows and no menu: the rows may be wider, no link has to be below
the menu by a distance within closer bounds, and to a denial within a denial a longer row is no
exception. -/
theorem isClean_of_eased_page :
    let rules (width gap lines : Range) : List Constraint :=
      [.everyOf (.declared ⟨"group-2"⟩) fun row => [.measures (.element row) .width width],
        .noneOf (.declared ⟨"group-3"⟩) fun link =>
          [.beside .below (.element link) (.declared ⟨"el-1"⟩) gap,
            .noneOf (.declared ⟨"group-2"⟩) fun row => [.lineCount (.element row) lines]]]
    let page (rules : List Constraint) : Spec :=
      ⟨[⟨"el-1", .css ".menu"⟩], [⟨"group-2", .css ".row"⟩, ⟨"group-3", .css "a"⟩], [],
        [fun _ => pure (.many rules)]⟩
    let strict := page (rules (.between 100.0 200.0) (.atLeast 10.0) (.between 1.0 2.0))
    let eased := page (rules (.atLeast 100.0) (.between 10.0 400.0) (.atLeast 1.0))
    let link := Element.shownAt "a" ⟨0.0, 0.0, 40.0, 20.0⟩
    let body := Element.shownAt "body" ⟨0.0, 0.0, 1000.0, 800.0⟩
    let m : Measurement := ⟨⟨[("group-3", [link])]⟩, body, body⟩
    strict.Eased eased ∧ (strict.evaluate m .unnamed).isClean = true ∧
      (eased.evaluate m .unnamed).isClean = true := by
  intro rules page strict eased link body m
  have hwidth : (Range.between 100.0 200.0).Eased .asserted (.atLeast 100.0) :=
    Range.atLeast_looser_between 100.0 200.0
  have hgap : (Range.atLeast 10.0).Eased .denied (.between 10.0 400.0) :=
    Range.atLeast_looser_between 10.0 400.0
  have hlines : (Range.between 1.0 2.0).Eased .asserted (.atLeast 1.0) :=
    Range.atLeast_looser_between 1.0 2.0
  have hrules : Constraint.AllEased .asserted
      (rules (.between 100.0 200.0) (.atLeast 10.0) (.between 1.0 2.0))
      (rules (.atLeast 100.0) (.between 10.0 400.0) (.atLeast 1.0)) := by
    refine .cons (.everyOf _ fun row => ?_) (.cons (.noneOf _ fun link => ?_) (.nil _))
    · exact .cons (.measures _ _ hwidth) (.nil _)
    · refine .cons (.beside _ _ _ hgap) (.cons (.noneOf _ fun row => ?_) (.nil _))
      exact .cons (.lineCount _ hlines) (.nil _)
  have heased : strict.Eased eased := ⟨rfl, rfl, rfl, .cons (fun _ _ _ => hrules) .nil⟩
  have hclean : (strict.evaluate m .unnamed).isClean = true := by
    decide +kernel
  exact ⟨heased, hclean, isClean_of_eased heased m .unnamed hclean⟩

end Spec
end LayoutAudit
