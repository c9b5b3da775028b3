import LayoutAudit.Proofs.Constraint.Evidence
import LayoutAudit.Proofs.Coordinate.Order
import LayoutAudit.Spec.Standard

/-!
# Proofs.Spec.Standard — the frame of a page, and its controls

The spec of the page frame looks at the first body and at the canvas.  The spec of the controls first
picks those that are flagged visible, and then asks for all of them to be tall enough, so that the
indices in its report count the controls that were picked.

* `Standard.bodyKey`, `Standard.controlsKey` — the keys under which the two specs have elements
  measured;
* `Standard.violations_pageFrame` — the report on the frame;
* `Standard.violations_tapTargets` — the report on the controls, from those that are flagged visible;
* `Standard.frame_and_controls` — what the two reports mean, and what has no part in the second.
-/

namespace LayoutAudit

/-! ## One quantity of one element -/

namespace Relation

/-- What is reported about a quantity that can be measured, by path. -/
theorem path_measures {quantity : Quantity} (range : Range) {e : Element} {x : Float}
    (hx : quantity.measure e = some x) :
    (measures quantity range e).map (·.path) =
      if e.present then (if range.admits x then [] else [quantity.relation])
      else [quantity.relation ++ ".present"] := by
  cases hpresent : e.present with
  | false =>
      have hmissing : ∃ e' ∈ [e], e'.present = false := ⟨e, List.mem_singleton_self e, hpresent⟩
      rw [measures, whenPresent_of_missing hmissing]
      rfl
  | true =>
      have hfound : ∀ e' ∈ [e], e'.present = true := by simpa using hpresent
      rw [measures, whenPresent_of_present hfound, hx]
      cases hadmits : range.admits x <;> simp [require, hadmits, Violation.detailed]

end Relation

namespace Standard

open Spec (Session)

/-! ## The frame of a page -/

def bodyKey : String := Session.elementKey 1

/-- The first body that was found, or a stand-in. -/
def body (m : Measurement) : Element := (m.store.get bodyKey).head?.getD (.missing "body")

theorem elements_pageFrame : pageFrame.elements = [⟨bodyKey, .css "body"⟩] := rfl

theorem constraintsIn_pageFrame (m : Measurement) (context : Context) :
    pageFrame.constraintsIn m context =
      [.flagged (.declared ⟨bodyKey⟩) .visible,
        .measures (.declared .canvas) .width (.atMost context.viewSize.width)] :=
  rfl

theorem violations_pageFrame (m : Measurement) (o : Occasion) :
    (pageFrame.evaluate m o).violations =
      Relation.flagged .visible (body m) ++
        Relation.measures .width (.atMost m.view.width) m.canvas := by
  have hbody : pageFrame.elementIn m ⟨bodyKey⟩ = body m := rfl
  have hcanvas : pageFrame.elementIn m .canvas = m.canvas := rfl
  rw [Spec.violations_evaluate, constraintsIn_pageFrame]
  simp [Spec.violationsOf, Constraint.check, Operand.denotes, hbody, hcanvas, Occasion.context,
    Measurement.viewSize]

/-- A stand-in is not shown, so that the body is if there is one and it is. -/
theorem body_shown_iff (m : Measurement) :
    Flag.visible.holds (body m) = true ↔
      ∃ e ∈ (m.store.get bodyKey).head?, e.present = true ∧ e.visible = true := by
  unfold body
  cases (m.store.get bodyKey).head? with
  | none => simp [Flag.holds, Element.missing, Element.blank]
  | some e => simp [Flag.holds]

/-- What is wrong with the body comes in front of what is wrong with the canvas. -/
theorem paths_pageFrame (m : Measurement) (o : Occasion) :
    (pageFrame.evaluate m o).violations.map (·.path) =
      (if ∃ e ∈ (m.store.get bodyKey).head?, e.present = true ∧ e.visible = true then []
        else ["visible"]) ++
      (if m.canvas.present then (if m.canvas.width ≤ m.view.width then [] else ["width_is"])
        else ["width_is.present"]) := by
  have hbody : (Relation.flagged .visible (body m)).map (·.path) =
      if ∃ e ∈ (m.store.get bodyKey).head?, e.present = true ∧ e.visible = true then []
      else ["visible"] := by
    rw [Relation.flagged, Relation.require]
    by_cases hshown : ∃ e ∈ (m.store.get bodyKey).head?, e.present = true ∧ e.visible = true
    · rw [if_pos hshown, if_pos ((body_shown_iff m).2 hshown)]
      rfl
    · rw [if_neg hshown, if_neg (mt (body_shown_iff m).1 hshown)]
      rfl
  have hcanvas := Relation.path_measures (.atMost m.view.width)
    (show Quantity.width.measure m.canvas = some m.canvas.width from rfl)
  rw [violations_pageFrame, List.map_append, hbody, hcanvas]
  simp only [Range.admits_atMost_iff]
  rfl

/-! ## Controls -/

def controlsKey : String := Session.groupKey 1

def shownControls (m : Measurement) : List Element :=
  (m.store.get controlsKey).filter (·.visible)

theorem groups_tapTargets :
    tapTargets.groups = [⟨controlsKey, .css "a, button, input, select, textarea"⟩] :=
  rfl

theorem constraintsIn_tapTargets (m : Measurement) (context : Context) :
    tapTargets.constraintsIn m context =
      if context.viewportClass = .desktop then []
      else [.forAll (.group ⟨"visible controls", shownControls m⟩)
        [.measures (.enclosing 0) .height (.atLeast leastTapHeight)]] := by
  have hfactories : tapTargets.factories = [fun context => do
      if context.viewportClass = .desktop then return .many []
      let shown := (← Query.findAll ⟨controlsKey⟩).items.filter (·.visible)
      return .many [.forAll (.group ⟨"visible controls", shown⟩)
        [.measures (.enclosing 0) .height (.atLeast leastTapHeight)]]] := rfl
  rw [Spec.constraintsIn, hfactories, List.flatMap_singleton]
  by_cases hdesktop : context.viewportClass = .desktop
  · simp [hdesktop, Bundle.flatten]
  · simp only [hdesktop, if_false]
    rfl

/-- Nothing is said of a desktop.  Otherwise all controls that are flagged visible are measured. -/
theorem violations_tapTargets (m : Measurement) (o : Occasion) :
    (tapTargets.evaluate m o).violations =
      if o.viewportClass.getD (.ofWidth m.view.width) = .desktop then []
      else (shownControls m).zipIdx.flatMap fun (e, i) =>
        (Relation.measures .height (.atLeast leastTapHeight) e).map
          (Violation.under (Relation.indexed "for_all" i)) := by
  have hclass : (o.context m).viewportClass = o.viewportClass.getD (.ofWidth m.view.width) := rfl
  rw [Spec.violations_evaluate, constraintsIn_tapTargets, hclass]
  split_ifs
  · rfl
  · rw [List.flatMap_singleton, Spec.violationsOf, Constraint.forAll, Constraint.answer_everyOf]
    simp [Constraint.alone, Constraint.check, Operand.denotes, GroupOperand.denotes]

/-- The path of what is reported about a control at its place among those that are shown. -/
def tapPath (e : Element) (i : Nat) : String :=
  Relation.indexed "for_all" i ++ "." ++ if e.present then "height_is" else "height_is.present"

/-- Of several controls one violation is reported for each that is not there or not tall enough. -/
theorem paths_of_controls (controls : List (Element × Nat)) :
    (controls.flatMap fun (e, i) =>
        (Relation.measures .height (.atLeast leastTapHeight) e).map
          (Violation.under (Relation.indexed "for_all" i))).map (·.path) =
      (controls.filter fun (e, _) => !(e.present && leastTapHeight ≤ e.height)).map
        fun (e, i) => tapPath e i := by
  induction controls with
  | nil => rfl
  | cons control rest ih =>
      rcases control with ⟨e, i⟩
      have hfirst := Relation.path_measures (.atLeast leastTapHeight)
        (show Quantity.height.measure e = some e.height from rfl)
      rw [List.flatMap_cons, List.map_append, ih, Violation.map_path_under, hfirst]
      by_cases hpresent : e.present = true
      · by_cases htall : leastTapHeight ≤ e.height
        · simp [hpresent, htall, Range.admits_atLeast_iff.2 htall]
        · have hshort : (Range.atLeast leastTapHeight).admits e.height = false := by
            rw [Bool.eq_false_iff]
            exact fun hadmits => htall (Range.admits_atLeast_iff.1 hadmits)
          simp [hpresent, htall, hshort, tapPath, Quantity.relation]
      · simp [hpresent, tapPath, Quantity.relation]

/-! ## The two reports -/

/-- What the two reports mean, for any measurement and any class that stands in for that of the
width.

1. The report on the frame is clean exactly if the first body that was found is there and visible and
   the canvas is there and no wider than the view.  What is wrong with the body comes first.
2. On a desktop there is nothing in the report on the controls.  Otherwise there is one violation for
   each control that is flagged visible and is not there or not 24 pixels tall, in the order of
   delivery, under its index among those that are flagged visible.
3. Controls that are not flagged visible have no part in it: the report is the same on every
   measurement with a view of the same size and the same controls that are flagged visible, whatever
   others stand before, between or behind them. -/
theorem frame_and_controls (m : Measurement) (o : Occasion) :
    (pageFrame.elements = [⟨bodyKey, .css "body"⟩] ∧
      ((pageFrame.evaluate m o).isClean = true ↔
        (∃ e ∈ (m.store.get bodyKey).head?, e.present = true ∧ e.visible = true) ∧
          m.canvas.present = true ∧ m.canvas.width ≤ m.view.width) ∧
      (pageFrame.evaluate m o).violations.map (·.path) =
        (if ∃ e ∈ (m.store.get bodyKey).head?, e.present = true ∧ e.visible = true then []
          else ["visible"]) ++
        (if m.canvas.present then (if m.canvas.width ≤ m.view.width then [] else ["width_is"])
          else ["width_is.present"])) ∧
    (tapTargets.groups = [⟨controlsKey, .css "a, button, input, select, textarea"⟩] ∧
      (tapTargets.evaluate m o).violations.map (·.path) =
        if o.viewportClass.getD (.ofWidth m.view.width) = .desktop then []
        else (((m.store.get controlsKey).filter (·.visible)).zipIdx.filter fun (e, _) =>
          !(e.present && (24.0 : Float) ≤ e.height)).map fun (e, i) =>
            Relation.indexed "for_all" i ++ "." ++
              if e.present then "height_is" else "height_is.present") ∧
    (∀ m' : Measurement, m'.viewSize = m.viewSize →
      (m'.store.get controlsKey).filter (·.visible) =
        (m.store.get controlsKey).filter (·.visible) →
      tapTargets.evaluate m' o = tapTargets.evaluate m o) := by
  refine ⟨⟨elements_pageFrame, ?_, paths_pageFrame m o⟩, ⟨groups_tapTargets, ?_⟩, ?_⟩
  · rw [Report.isClean, List.isEmpty_iff, ← List.map_eq_nil_iff (f := Violation.path),
      paths_pageFrame, List.append_eq_nil_iff]
    split_ifs <;> simp_all
  · rw [violations_tapTargets]
    split_ifs
    · rfl
    · exact paths_of_controls (shownControls m).zipIdx
  · intro m' hsize hshown
    have hcontext : o.context m' = o.context m := by
      simp only [Occasion.context, hsize]
    have hviolations : (tapTargets.evaluate m' o).violations = (tapTargets.evaluate m o).violations := by
      have hwidth : m'.view.width = m.view.width := congrArg ViewSize.width hsize
      have hcontrols : shownControls m' = shownControls m := hshown
      rw [violations_tapTargets, violations_tapTargets, hwidth, hcontrols]
    have hreport (m : Measurement) : tapTargets.evaluate m o =
        (o.context m).report (tapTargets.evaluate m o).violations := rfl
    rw [hreport m', hreport m, hcontext, hviolations]

/-- A button that is too low, among buttons that are hidden and lower still, and by itself. -/
theorem frame_and_controls_of_button :
    let button := Element.shownAt "button" ⟨0.0, 0.0, 80.0, 16.0⟩
    let hidden : Element := { Element.shownAt "button" .zero with visible := false }
    let view := Element.shownAt "view" ⟨0.0, 0.0, 375.0, 812.0⟩
    let page (controls : List Element) : Measurement := ⟨⟨[(controlsKey, controls)]⟩, view, view⟩
    (page [hidden, button, hidden]).viewSize = (page [button]).viewSize ∧
      ((page [hidden, button, hidden]).store.get controlsKey).filter (·.visible) =
        ((page [button]).store.get controlsKey).filter (·.visible) ∧
      tapTargets.evaluate (page [hidden, button, hidden]) .unnamed =
        tapTargets.evaluate (page [button]) .unnamed ∧
      (tapTargets.evaluate (page [button]) .unnamed).violations.map (·.path) =
        ["for_all[0].height_is"] := by
  intro button hidden view page
  have halone := frame_and_controls (page [button]) .unnamed
  refine ⟨rfl, rfl, halone.2.2 (page [hidden, button, hidden]) rfl rfl, ?_⟩
  rw [halone.2.1.2]
  decide +kernel

end Standard
end LayoutAudit
