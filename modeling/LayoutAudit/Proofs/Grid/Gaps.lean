import Mathlib.Logic.Basic
import LayoutAudit.Grid.Spacing
import LayoutAudit.Proofs.Relation.Presence

/-!
# Proofs.Grid.Gaps — what a grid is judged by

The checks of a table and of equal distances look at the elements only to measure gaps: between the
elements of a row, between rows, or along a course.  What they report is decided by the numbers of
elements in the rows and by these gaps.

* `Grid.columnGaps`, `Grid.marginGaps` — the gaps within a row, and between rows;
* `Relation.tabular_congr`, `Relation.evenlySpaced_congr` — the same gaps, the same findings;
* `Relation.tabular_ne_nil_of_column`, `Relation.tabular_ne_nil_of_margin` — a gap that a margin does
  not admit is reported;
* `Relation.length_evenlySpaced` — how many gaps are reported as unlike the first.
-/

namespace LayoutAudit
namespace Grid

/-- The gaps between the elements of a row, from left to right. -/
def columnGaps (row : List Element) : List Float :=
  (neighbours (row.mergeSort leftOf)).map fun (a, b) => b.left - a.right

/-- The gaps between rows, from top to bottom. -/
def marginGaps (rows : List (List Element)) : List Float :=
  (neighbours rows).map fun (upper, lower) => highestTop lower - lowestBottom upper

end Grid

namespace Relation

open Grid

section Indexed

variable {α β γ : Type} {f : α → γ} {report : α × Nat → List β}

/-- What is reported about items by their indices is decided by what is looked at of the items. -/
theorem flatMap_zipIdx_congr (hreport : ∀ a a' i, f a = f a' → report (a, i) = report (a', i))
    {as as' : List α} (h : as.map f = as'.map f) (i : Nat) :
    (as.zipIdx i).flatMap report = (as'.zipIdx i).flatMap report := by
  induction as generalizing as' i with
  | nil =>
      have hnil : as' = [] := by simpa [eq_comm] using h
      rw [hnil]
  | cons a rest ih =>
      cases as' with
      | nil => cases h
      | cons a' rest' =>
          rw [List.map_cons, List.map_cons, List.cons.injEq] at h
          simp only [List.zipIdx_cons, List.flatMap_cons]
          rw [hreport a a' i h.1, ih h.2 (i + 1)]

/-- An item about which something is reported, at whatever index, leaves no list without report. -/
theorem flatMap_zipIdx_ne_nil {as : List α} {a : α} (ha : a ∈ as)
    (hreport : ∀ i, report (a, i) ≠ []) (i : Nat) : (as.zipIdx i).flatMap report ≠ [] := by
  intro hnil
  rcases List.mem_iff_getElem.1 ha with ⟨k, hk, rfl⟩
  have hmem : (as[k], i + k) ∈ as.zipIdx i :=
    List.mk_add_mem_zipIdx_iff_getElem?.2 (List.getElem?_eq_getElem hk)
  exact hreport (i + k) (List.flatMap_eq_nil_iff.1 hnil _ hmem)

/-- One report for each item that exceeds something, and none for the others. -/
theorem length_flatMap_zipIdx {exceeds : α → Bool}
    (hreport : ∀ a i, (report (a, i)).length = if exceeds a then 1 else 0) (as : List α) (i : Nat) :
    ((as.zipIdx i).flatMap report).length = as.countP exceeds := by
  induction as generalizing i with
  | nil => rfl
  | cons a rest ih =>
      rw [List.zipIdx_cons, List.flatMap_cons, List.length_append, hreport, ih, List.countP_cons,
        Nat.add_comm]

end Indexed

theorem length_require (holds : Bool) (v : Violation) :
    (require holds v).length = if holds then 0 else 1 := by
  cases holds <;> rfl

variable {selector : String} {margin : Range} {table : Table} {rows : List (List Element)}

/-! ## The same gaps -/

theorem rowGaps_congr {row row' : List Element} (h : columnGaps row = columnGaps row') (r : Nat) :
    rowGaps selector margin r row = rowGaps selector margin r row' := by
  refine flatMap_zipIdx_congr ?_ h 0
  rintro ⟨a, b⟩ ⟨a', b'⟩ i hgap
  simp only at hgap ⊢
  rw [hgap]

theorem allBetweenRows_congr {rows' : List (List Element)}
    (h : table.vertical.isSome = true → marginGaps rows = marginGaps rows') :
    allBetweenRows selector table rows = allBetweenRows selector table rows' := by
  cases hmargin : table.vertical with
  | none => simp only [allBetweenRows, hmargin]
  | some margin =>
      simp only [allBetweenRows, hmargin]
      refine flatMap_zipIdx_congr ?_ (h (by rw [hmargin]; rfl)) 0
      rintro ⟨upper, lower⟩ ⟨upper', lower'⟩ r hgap
      simp only [betweenRows] at hgap ⊢
      rw [hgap]

/-- What is reported of a table is decided by the lengths of the rows, by the gaps within them if a
margin between columns is given, and by the gaps between them if one between rows is. -/
theorem tabular_congr {selector : String} {es es' : List Element}
    (hlengths : (Grid.rows es).map List.length = (Grid.rows es').map List.length)
    (hcolumns : table.horizontal.isSome = true →
      (Grid.rows es).map columnGaps = (Grid.rows es').map columnGaps)
    (hmargins : table.vertical.isSome = true →
      marginGaps (Grid.rows es) = marginGaps (Grid.rows es')) :
    tabular table ⟨selector, es⟩ = tabular table ⟨selector, es'⟩ := by
  -- Without a margin only the length of a row is looked at, with one its gaps are as well.
  have hwithin : (Grid.rows es).zipIdx.flatMap (fun p => withinRow selector table p.2 p.1) =
      (Grid.rows es').zipIdx.flatMap fun p => withinRow selector table p.2 p.1 := by
    cases hmargin : table.horizontal with
    | none =>
        refine flatMap_zipIdx_congr (f := List.length) ?_ hlengths 0
        intro row row' r hlength
        simp only [withinRow, hmargin, rowWidth, hlength]
    | some margin =>
        have hboth : (Grid.rows es).map (fun row => (row.length, columnGaps row)) =
            (Grid.rows es').map fun row => (row.length, columnGaps row) := by
          rw [← List.zip_map', ← List.zip_map', hlengths, hcolumns (by rw [hmargin]; rfl)]
        refine flatMap_zipIdx_congr ?_ hboth 0
        intro row row' r hsame
        rw [Prod.mk.injEq] at hsame
        simp only [withinRow, hmargin, rowWidth, hsame.1, rowGaps_congr hsame.2]
  exact congrArg₂ (· ++ ·) hwithin (allBetweenRows_congr hmargins)

/-- What is reported of a course is decided by the gaps along it. -/
theorem evenlySpaced_congr {course : Course} {tolerance : Float} {es es' : List Element}
    (h : course.gaps es = course.gaps es') :
    evenlySpaced course tolerance ⟨selector, es⟩ = evenlySpaced course tolerance ⟨selector, es'⟩ := by
  simp only [evenlySpaced, h]

/-! ## Gaps that are reported -/

theorem rowGaps_ne_nil {row : List Element} {gap : Float} (hgap : gap ∈ columnGaps row)
    (hfails : margin.admits gap = false) (r : Nat) : rowGaps selector margin r row ≠ [] := by
  rcases List.mem_map.1 hgap with ⟨⟨a, b⟩, hpair, rfl⟩
  refine flatMap_zipIdx_ne_nil hpair (fun i => ?_) 0
  simp [require, hfails]

theorem rowGaps_eq_nil {row : List Element} {r : Nat}
    (h : ∀ gap ∈ columnGaps row, margin.admits gap = true) :
    rowGaps selector margin r row = [] := by
  refine List.flatMap_eq_nil_iff.2 fun ⟨⟨a, b⟩, i⟩ hmem => ?_
  have hpair : (a, b) ∈ neighbours (row.mergeSort leftOf) :=
    (List.mem_zipIdx' hmem).2 ▸ List.getElem_mem _
  simp [require, h _ (List.mem_map_of_mem hpair)]

theorem tabular_ne_nil_of_column {g : Group} (hmargin : table.horizontal = some margin)
    {row : List Element} (hrow : row ∈ Grid.rows g.items) {gap : Float}
    (hgap : gap ∈ columnGaps row) (hfails : margin.admits gap = false) : tabular table g ≠ [] := by
  have hwithin : (Grid.rows g.items).zipIdx.flatMap
      (fun p => withinRow g.selector table p.2 p.1) ≠ [] := by
    refine flatMap_zipIdx_ne_nil hrow (fun r => ?_) 0
    simp only [withinRow, hmargin]
    exact List.append_ne_nil_of_right_ne_nil _ (rowGaps_ne_nil hgap hfails r)
  exact List.append_ne_nil_of_left_ne_nil hwithin _

theorem tabular_ne_nil_of_margin {g : Group} (hmargin : table.vertical = some margin)
    {gap : Float} (hgap : gap ∈ marginGaps (Grid.rows g.items))
    (hfails : margin.admits gap = false) : tabular table g ≠ [] := by
  rcases List.mem_map.1 hgap with ⟨⟨upper, lower⟩, hpair, rfl⟩
  have hbetween : allBetweenRows g.selector table (Grid.rows g.items) ≠ [] := by
    simp only [allBetweenRows, hmargin]
    refine flatMap_zipIdx_ne_nil hpair (fun r => ?_) 0
    simp [betweenRows, require, hfails]
  exact List.append_ne_nil_of_right_ne_nil _ hbetween

/-- As many gaps are reported as lie beyond the tolerance from the first. -/
theorem length_evenlySpaced (course : Course) (tolerance : Float) (g : Group) :
    (evenlySpaced course tolerance g).length =
      match course.gaps g.items with
      | [] => 0
      | baseline :: rest => rest.countP fun gap => tolerance < (gap - baseline).abs := by
  unfold evenlySpaced
  cases course.gaps g.items with
  | nil => rfl
  | cons baseline rest =>
      refine length_flatMap_zipIdx (fun gap i => ?_) rest 1
      simp [gapLike, length_require]

end Relation
end LayoutAudit
