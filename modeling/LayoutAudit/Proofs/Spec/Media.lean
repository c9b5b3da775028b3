import LayoutAudit.Proofs.Constraint.Evidence
import LayoutAudit.Proofs.Coordinate.Magnitude
import LayoutAudit.Spec.Standard

/-!
# Proofs.Spec.Media — pictures look sideways, up to a point

The spec of the media is about the left and the right edge.  The other two are tested as well, against
the least finite double, and that lets every gap pass but one that is undefined or below all finite
doubles.  Such gaps are between positions that are far apart: on a page of a moderate size there are
none, and the spec looks at the horizontal direction only.

* `Relation.paths_inside`, `Relation.inside_congr` — what is reported about an element within another
  one, and what has no part in it;
* `Standard.violations_mediaFit` — the report on the media;
* `Standard.VerticallyInReach` — the vertical gaps of an element pass the tests;
* `Standard.verticallyInReach_of_moderate` — positions and heights of a moderate size suffice;
* `Standard.sideways_iff_verticallyInReach` — when the report is about the left and the right edges
  only;
* `Standard.violations_of_alike` — when positions and heights may change;
* `Standard.picture_out_of_reach` — a measurement that was read on which it is not.
-/

namespace LayoutAudit

/-! ## One element within another -/

namespace Relation

variable {edges : Edges} {a b a' b' : Element}

theorem path_insideAt (edge : Edge) (range : Range) (a b : Element) :
    (insideAt edge range a b).map (·.path) =
      if range.admits (edge.inset a b) then [] else ["inside." ++ edge.name] := by
  rw [insideAt]
  cases range.admits (edge.inset a b) <;> rfl

/-- What is reported about an element within another one, by path. -/
theorem paths_inside (ha : a.present = true) (hb : b.present = true) :
    (inside edges a b).map (·.path) = Edge.all.flatMap fun edge =>
      if (edges.test edge).admits (edge.inset a b) then [] else ["inside." ++ edge.name] := by
  have hfound : ∀ e ∈ [a, b], e.present = true := by simp [ha, hb]
  rw [inside, whenPresent_of_present hfound, List.map_flatMap]
  simp only [path_insideAt]

/-- Elements have no part in what is reported but by their selectors and those gaps that do not pass
the tests. -/
theorem inside_congr (ha : a'.selector = a.selector) (ha' : a'.present = a.present)
    (hb : b'.selector = b.selector) (hb' : b'.present = b.present)
    (hgaps : ∀ edge, edge.inset a' b' = edge.inset a b ∨
      (edges.test edge).admits (edge.inset a' b') = true ∧
        (edges.test edge).admits (edge.inset a b) = true) :
    inside edges a' b' = inside edges a b := by
  have hmissing : missing [a', b'] = missing [a, b] := by
    simp only [missing, List.filter_cons, ha', hb']
    split_ifs <;> simp [ha, hb]
  have hedges (edge : Edge) :
      insideAt edge (edges.test edge) a' b' = insideAt edge (edges.test edge) a b := by
    rcases hgaps edge with hsame | ⟨hadmits, hadmits'⟩
    · simp only [insideAt, hsame, ha, hb]
    · simp only [insideAt, require, hadmits, hadmits', if_true]
  simp only [inside, whenPresent, hmissing, hedges]

end Relation

namespace Standard

open Coordinate (InReach Moderate)
open Spec (Session)

/-! ## The report -/

def mediaKey : String := Session.groupKey 1

theorem groups_mediaFit :
    mediaFit.groups = [⟨mediaKey, .css "img, video, iframe, canvas, svg"⟩] :=
  rfl

theorem constraintsIn_mediaFit (m : Measurement) (context : Context) :
    mediaFit.constraintsIn m context =
      [.forAll (.declared ⟨mediaKey⟩) [.inside (.enclosing 0) (.declared .view) mediaEdges]] :=
  rfl

theorem violations_mediaFit (m : Measurement) (o : Occasion) :
    (mediaFit.evaluate m o).violations =
      (m.store.get mediaKey).zipIdx.flatMap fun (e, i) =>
        (Relation.inside mediaEdges e m.view).map
          (Violation.under (Relation.indexed "for_all" i)) := by
  have hview : mediaFit.elementIn m .view = m.view := rfl
  have hmedia : (mediaFit.groupIn m ⟨mediaKey⟩).items = m.store.get mediaKey := rfl
  rw [Spec.violations_evaluate, constraintsIn_mediaFit, List.flatMap_singleton, Spec.violationsOf,
    Constraint.forAll, Constraint.answer_everyOf]
  simp [Constraint.alone, Constraint.check, Operand.denotes, GroupOperand.denotes, hview, hmedia]

/-- What is asked at an edge: at the right and the left one a gap of at least zero, at the other two one
that is neither undefined nor below all finite doubles. -/
def Asked (view e : Element) : Edge → Prop
  | .top => InReach (e.top - view.top)
  | .right => 0.0 ≤ view.right - e.right
  | .bottom => InReach (view.bottom - e.bottom)
  | .left => 0.0 ≤ e.left - view.left

instance (view e : Element) : DecidablePred (Asked view e)
  | .top => inferInstanceAs (Decidable (InReach _))
  | .right => inferInstanceAs (Decidable (_ ≤ _))
  | .bottom => inferInstanceAs (Decidable (InReach _))
  | .left => inferInstanceAs (Decidable (_ ≤ _))

theorem admits_mediaEdges (view e : Element) (edge : Edge) :
    (mediaEdges.test edge).admits (edge.inset e view) = true ↔ Asked view e edge := by
  cases edge with
  | top => exact Range.admits_atLeast_iff.trans Coordinate.lowest_le_iff
  | right => exact Range.admits_atLeast_iff
  | bottom => exact Range.admits_atLeast_iff.trans Coordinate.lowest_le_iff
  | left => exact Range.admits_atLeast_iff

def mediaPath (i : Nat) (edge : Edge) : String :=
  Relation.indexed "for_all" i ++ ".inside." ++ edge.name

variable {m m' : Measurement}

/-- Something is reported about each edge of each element at which not all is as asked. -/
theorem paths_mediaFit (hview : m.view.present = true)
    (hmedia : ∀ e ∈ m.store.get mediaKey, e.present = true) (o : Occasion) :
    (mediaFit.evaluate m o).violations.map (·.path) =
      (m.store.get mediaKey).zipIdx.flatMap fun (e, i) => Edge.all.flatMap fun edge =>
        if Asked m.view e edge then [] else [mediaPath i edge] := by
  rw [violations_mediaFit, List.map_flatMap]
  apply List.flatMap_congr
  rintro ⟨e, i⟩ he
  rw [Violation.map_path_under, Relation.paths_inside (hmedia e (List.fst_mem_of_mem_zipIdx he)) hview,
    List.map_flatMap]
  apply List.flatMap_congr
  intro edge _
  simp only [admits_mediaEdges]
  split_ifs
  · rfl
  · simp only [List.map_singleton, mediaPath, String.append_assoc]
    rfl

theorem mem_paths_mediaFit_iff (hview : m.view.present = true)
    (hmedia : ∀ e ∈ m.store.get mediaKey, e.present = true) (o : Occasion) (path : String) :
    path ∈ (mediaFit.evaluate m o).violations.map (·.path) ↔
      ∃ e i edge, (m.store.get mediaKey)[i]? = some e ∧ ¬ Asked m.view e edge ∧
        path = mediaPath i edge := by
  rw [paths_mediaFit hview hmedia]
  simp only [List.mem_flatMap, List.mem_ite_nil_left, List.mem_singleton, Prod.exists,
    List.mem_zipIdx_iff_getElem?]
  constructor
  · rintro ⟨e, i, he, edge, -, hpath⟩
    exact ⟨e, i, edge, he, hpath⟩
  · rintro ⟨e, i, edge, he, hpath⟩
    exact ⟨e, i, he, edge, by cases edge <;> decide, hpath⟩

/-! ## The horizontal direction -/

/-- The path of what is reported about a right or a left edge. -/
def Sideways (path : String) : Prop := ∃ i, path = mediaPath i .right ∨ path = mediaPath i .left

/-- The vertical gaps of an element pass the tests. -/
def VerticallyInReach (view e : Element) : Prop :=
  InReach (e.top - view.top) ∧ InReach (view.bottom - e.bottom)

theorem getLast?_mediaPath (i : Nat) (edge : Edge) :
    (mediaPath i edge).toList.getLast? = edge.name.toList.getLast? := by
  rw [mediaPath, String.toList_append, List.getLast?_append]
  cases edge <;> rfl

/-- The last letter tells a right or a left edge from the other two. -/
theorem sideways_mediaPath_iff (i : Nat) (edge : Edge) :
    Sideways (mediaPath i edge) ↔ edge = .right ∨ edge = .left := by
  constructor
  · rintro ⟨j, h⟩
    have hlast : edge.name.toList.getLast? = Edge.right.name.toList.getLast? ∨
        edge.name.toList.getLast? = Edge.left.name.toList.getLast? := by
      rw [← getLast?_mediaPath i, ← getLast?_mediaPath j, ← getLast?_mediaPath j]
      exact h.imp (congrArg fun path : String => path.toList.getLast?)
        (congrArg fun path : String => path.toList.getLast?)
    revert hlast
    cases edge <;> decide
  · rintro (rfl | rfl)
    · exact ⟨i, .inl rfl⟩
    · exact ⟨i, .inr rfl⟩

theorem sideways_iff_verticallyInReach (hview : m.view.present = true)
    (hmedia : ∀ e ∈ m.store.get mediaKey, e.present = true) (o : Occasion) :
    (∀ v ∈ (mediaFit.evaluate m o).violations, Sideways v.path) ↔
      ∀ e ∈ m.store.get mediaKey, VerticallyInReach m.view e := by
  have hpaths : (∀ v ∈ (mediaFit.evaluate m o).violations, Sideways v.path) ↔
      ∀ path ∈ (mediaFit.evaluate m o).violations.map (·.path), Sideways path :=
    List.forall_mem_map.symm
  simp only [hpaths, mem_paths_mediaFit_iff hview hmedia]
  constructor
  · intro hsideways e he
    rcases List.getElem?_of_mem he with ⟨i, hi⟩
    have hasked (edge : Edge) (hedge : ¬ (edge = .right ∨ edge = .left)) : Asked m.view e edge := by
      by_contra hlost
      exact hedge ((sideways_mediaPath_iff i edge).1 (hsideways _ ⟨e, i, edge, hi, hlost, rfl⟩))
    exact ⟨hasked .top (by decide), hasked .bottom (by decide)⟩
  · rintro hreach path ⟨e, i, edge, hi, hnot, rfl⟩
    rcases hreach e (List.mem_of_getElem? hi) with ⟨htop, hbottom⟩
    rw [sideways_mediaPath_iff]
    cases edge with
    | top => exact absurd htop hnot
    | right => exact .inl rfl
    | bottom => exact absurd hbottom hnot
    | left => exact .inr rfl

/-! ## Other tops and heights -/

/-- Elements that are alike but for what is not horizontal. -/
structure AlikeSideways (a b : Element) : Prop where
  selector : b.selector = a.selector
  present : b.present = a.present
  left : b.left = a.left
  width : b.width = a.width

theorem AlikeSideways.right {a b : Element} (h : AlikeSideways a b) : b.right = a.right := by
  have hleft : b.box.left = a.box.left := h.left
  have hwidth : b.box.width = a.box.width := h.width
  simp only [Element.right, Rect.right, hleft, hwidth]

theorem inside_of_alike {view view' e e' : Element} (hview : AlikeSideways view view')
    (he : AlikeSideways e e') (h : VerticallyInReach view e) (h' : VerticallyInReach view' e') :
    Relation.inside mediaEdges e' view' = Relation.inside mediaEdges e view := by
  apply Relation.inside_congr he.selector he.present hview.selector hview.present
  intro edge
  cases edge with
  | top => exact .inr ⟨(admits_mediaEdges view' e' .top).2 h'.1, (admits_mediaEdges view e .top).2 h.1⟩
  | right => exact .inl (congrArg₂ (· - ·) hview.right he.right)
  | bottom =>
      exact .inr ⟨(admits_mediaEdges view' e' .bottom).2 h'.2, (admits_mediaEdges view e .bottom).2 h.2⟩
  | left => exact .inl (congrArg₂ (· - ·) he.left hview.left)

theorem present_of_alike {es es' : List Element} (h : List.Forall₂ AlikeSideways es es')
    (hpresent : ∀ e ∈ es, e.present = true) : ∀ e ∈ es', e.present = true := by
  induction h with
  | nil => exact hpresent
  | cons he _ ih =>
      rw [List.forall_mem_cons] at hpresent ⊢
      exact ⟨he.present.trans hpresent.1, ih hpresent.2⟩

/-- The same is reported about media that are alike one by one, wherever their indices begin. -/
theorem reports_of_alike {view view' : Element} (hview : AlikeSideways view view')
    {es es' : List Element} (h : List.Forall₂ AlikeSideways es es')
    (hreach : ∀ e ∈ es, VerticallyInReach view e) (hreach' : ∀ e ∈ es', VerticallyInReach view' e)
    (n : Nat) :
    ((es'.zipIdx n).flatMap fun (e, i) => (Relation.inside mediaEdges e view').map
        (Violation.under (Relation.indexed "for_all" i))) =
      (es.zipIdx n).flatMap fun (e, i) => (Relation.inside mediaEdges e view).map
        (Violation.under (Relation.indexed "for_all" i)) := by
  induction h generalizing n with
  | nil => simp only [List.zipIdx_nil, List.flatMap_nil]
  | cons he _ ih =>
      rw [List.forall_mem_cons] at hreach hreach'
      simp only [List.zipIdx_cons, List.flatMap_cons,
        inside_of_alike hview he hreach.1 hreach'.1, ih hreach.2 hreach'.2 (n + 1)]

/-- Other tops and heights change nothing exactly if they do not go out of reach. -/
theorem violations_of_alike (hview : m.view.present = true)
    (hmedia : ∀ e ∈ m.store.get mediaKey, e.present = true) (o : Occasion)
    (hreach : ∀ e ∈ m.store.get mediaKey, VerticallyInReach m.view e)
    (hview' : AlikeSideways m.view m'.view)
    (hmedia' : List.Forall₂ AlikeSideways (m.store.get mediaKey) (m'.store.get mediaKey)) :
    (mediaFit.evaluate m' o).violations = (mediaFit.evaluate m o).violations ↔
      ∀ e ∈ m'.store.get mediaKey, VerticallyInReach m'.view e := by
  constructor
  · intro hsame
    rw [← sideways_iff_verticallyInReach (hview'.present.trans hview)
      (present_of_alike hmedia' hmedia) o, hsame]
    exact (sideways_iff_verticallyInReach hview hmedia o).2 hreach
  · intro hreach'
    rw [violations_mediaFit, violations_mediaFit]
    exact reports_of_alike hview' hmedia' hreach hreach' 0

/-- No vertical gap goes out of reach if positions and heights are of a moderate size. -/
theorem verticallyInReach_of_moderate {view e : Element}
    (hview : Moderate view.top ∧ Moderate view.height) (he : Moderate e.top ∧ Moderate e.height) :
    VerticallyInReach view e := by
  have hbottom {e : Element} (he : Moderate e.top ∧ Moderate e.height) :
      Coordinate.Bounded 946 (Coordinate.parts e.bottom) :=
    Coordinate.bounded_parts_add (Coordinate.bounded_of_moderate he.1)
      (Coordinate.bounded_of_moderate he.2) (by decide) (by decide)
  constructor
  · have hgap : Coordinate.Bounded 946 (Coordinate.parts (e.top - view.top)) :=
      Coordinate.bounded_parts_sub (Coordinate.bounded_of_moderate he.1)
        (Coordinate.bounded_of_moderate hview.1) (by decide) (by decide)
    exact .inl (Coordinate.isFinite_of_bounded hgap)
  · have hgap : Coordinate.Bounded 948 (Coordinate.parts (view.bottom - e.bottom)) :=
      Coordinate.bounded_parts_sub (hbottom hview) (hbottom he) (by decide) (by decide)
    exact .inl (Coordinate.isFinite_of_bounded hgap)

/-- What the report on the media is about, for any measurement of a page on which the view and the
media are there.

1. Something is reported about each edge of each of the media at which the inward gap is not as asked:
   at the right and the left edge a gap that is not at least zero, at the other two a gap that is
   undefined or below all finite doubles.
2. So the report is about right and left edges only, exactly if no vertical gap is such.
3. If none is, then what tops and heights are, of the media and of the view, and whatever else has
   nothing to do with the horizontal direction, may change: the same violations are reported exactly
   if again no vertical gap is such.
4. None is if tops and heights are of a moderate size. -/
theorem media_fit_sideways (m : Measurement) (o : Occasion) (hview : m.view.present = true)
    (hmedia : ∀ e ∈ m.store.get mediaKey, e.present = true) :
    mediaFit.groups = [⟨mediaKey, .css "img, video, iframe, canvas, svg"⟩] ∧
    (mediaFit.evaluate m o).violations.map (·.path) =
      ((m.store.get mediaKey).zipIdx.flatMap fun (e, i) => Edge.all.flatMap fun edge =>
        if Asked m.view e edge then [] else [mediaPath i edge]) ∧
    ((∀ v ∈ (mediaFit.evaluate m o).violations, Sideways v.path) ↔
      ∀ e ∈ m.store.get mediaKey, VerticallyInReach m.view e) ∧
    (∀ m' : Measurement, AlikeSideways m.view m'.view →
      List.Forall₂ AlikeSideways (m.store.get mediaKey) (m'.store.get mediaKey) →
      (∀ e ∈ m.store.get mediaKey, VerticallyInReach m.view e) →
      ((mediaFit.evaluate m' o).violations = (mediaFit.evaluate m o).violations ↔
        ∀ e ∈ m'.store.get mediaKey, VerticallyInReach m'.view e)) ∧
    ((∀ e ∈ m.view :: m.store.get mediaKey, Moderate e.top ∧ Moderate e.height) →
      ∀ e ∈ m.store.get mediaKey, VerticallyInReach m.view e) := by
  refine ⟨groups_mediaFit, paths_mediaFit hview hmedia o,
    sideways_iff_verticallyInReach hview hmedia o, ?_, ?_⟩
  · intro m' hview' hmedia' hreach
    exact violations_of_alike hview hmedia o hreach hview' hmedia'
  · intro hmoderate e he
    rw [List.forall_mem_cons] at hmoderate
    exact verticallyInReach_of_moderate hmoderate.1 (hmoderate.2 e he)

/-- A picture that is too wide, at the top of the page and far below. -/
theorem media_fit_sideways_of_picture :
    let view := Element.shownAt "view" ⟨0.0, 0.0, 375.0, 500.0⟩
    let picture (top height : Float) : Element := Element.shownAt "img" ⟨0.0, top, 500.0, height⟩
    let page (e : Element) : Measurement := ⟨⟨[(mediaKey, [e])]⟩, view, view⟩
    let found (e : Element) : List Violation := (mediaFit.evaluate (page e) .unnamed).violations
    (page (picture 0.0 200.0)).view.present = true ∧
      (∀ e ∈ (page (picture 0.0 200.0)).store.get mediaKey, e.present = true) ∧
      (found (picture 0.0 200.0)).map (·.path) = ["for_all[0].inside.right"] ∧
      found (picture 9000.0 900.0) = found (picture 0.0 200.0) := by
  intro view picture page found
  have hmedia : ∀ e ∈ (page (picture 0.0 200.0)).store.get mediaKey, e.present = true := by decide
  rcases media_fit_sideways (page (picture 0.0 200.0)) .unnamed rfl hmedia with
    ⟨-, hpaths, -, hother, hmoderate⟩
  refine ⟨rfl, hmedia, hpaths.trans (by decide +kernel), ?_⟩
  have hreach : ∀ e ∈ (page (picture 0.0 200.0)).store.get mediaKey, VerticallyInReach view e := by
    apply hmoderate
    rintro e (_ | ⟨_, _ | ⟨_, ⟨⟩⟩⟩) <;>
      exact ⟨⟨by decide +kernel, by decide +kernel⟩, by decide +kernel, by decide +kernel⟩
  refine (hother (page (picture 9000.0 900.0)) ⟨rfl, rfl, rfl, rfl⟩
    (.cons ⟨rfl, rfl, rfl, rfl⟩ .nil) hreach).2 ?_
  exact List.forall_mem_singleton.2 ⟨.inl (by decide +kernel), .inl (by decide +kernel)⟩

/-- A picture and a view whose tops were read at the two ends of the doubles: something is reported
about the top edge of the picture, and nothing once the view is moved. -/
theorem picture_out_of_reach :
    ∃ m : Measurement, Measurement.read
        ("\x7b\"store\":\x7b\"group-1\":[[\"img\",[0,-1.7e308,100,50]]]\x7d," ++
          "\"view\":[\"view\",[0,1.7e308,375,812]],\"canvas\":[\"canvas\",[0,0,375,2000]]\x7d") =
        .ok m ∧
      m.view.present = true ∧ (∀ e ∈ m.store.get mediaKey, e.present = true) ∧
      ¬ (∀ v ∈ (mediaFit.evaluate m .unnamed).violations, Sideways v.path) ∧
      ¬ (∀ top : Float,
        (mediaFit.evaluate { m with view := { m.view with box := { m.view.box with top } } }
            .unnamed).violations =
          (mediaFit.evaluate m .unnamed).violations) := by
  generalize htext : "\x7b\"store\":\x7b\"group-1\":[[\"img\",[0,-1.7e308,100,50]]]\x7d," ++
      "\"view\":[\"view\",[0,1.7e308,375,812]],\"canvas\":[\"canvas\",[0,0,375,2000]]\x7d" =
    text
  let moved (m : Measurement) : Measurement :=
    { m with view := { m.view with box := { m.view.box with top := 0.0 } } }
  have hread : ((Measurement.read text).toOption.map fun m =>
      (m.view.present, (m.store.get mediaKey).map (·.present),
        (mediaFit.evaluate m .unnamed).violations.map (·.path),
        (mediaFit.evaluate (moved m) .unnamed).violations.map (·.path))) =
      some (true, [true], ["for_all[0].inside.top"], []) := by
    rw [← htext]
    decide +kernel
  rcases hm : Measurement.read text with fault | m
  · simp [hm, Except.toOption] at hread
  simp only [hm, Except.toOption, Option.map_some, Option.some.injEq, Prod.mk.injEq] at hread
  rcases hread with ⟨hview, hpresent, hpaths, hmoved⟩
  refine ⟨m, rfl, hview, ?_, ?_, ?_⟩
  · intro e he
    have hmem : e.present ∈ (m.store.get mediaKey).map (·.present) := List.mem_map_of_mem he
    rw [hpresent] at hmem
    exact List.mem_singleton.1 hmem
  · intro hsideways
    have htop : mediaPath 0 .top ∈ (mediaFit.evaluate m .unnamed).violations.map (·.path) := by
      rw [hpaths]
      exact List.mem_singleton.2 (by decide +kernel)
    rcases List.mem_map.1 htop with ⟨v, hv, hpath⟩
    have hedge := hsideways v hv
    rw [hpath, sideways_mediaPath_iff] at hedge
    revert hedge
    decide
  · intro hsame
    have hpaths' := congrArg (List.map Violation.path) (hsame 0.0)
    rw [hpaths] at hpaths'
    cases hmoved.symm.trans hpaths'

end Standard
end LayoutAudit
