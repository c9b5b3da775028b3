import LayoutAudit.Grid.Spacing
import LayoutAudit.Proofs.Grid.Margins

/-!
# Proofs.Grid.Delivery — grids and the order of delivery

Elements are sorted by where they begin, while gaps are measured from where they end.  Of several
elements that begin at one place the one delivered last is taken as the last, and its end decides the
gap behind it.  Nothing else about the order of delivery shows in what is reported.

* `Course.gaps_of_perm`, `Grid.columnGaps_of_perm` — gaps depend on the order of delivery of the ends
  of such elements;
* `Relation.grid_checks_of_perm` — so do the findings, and those between rows not even on that;
* `Relation.grid_checks_show_order` — elements of different sizes that begin at one place.
-/

namespace LayoutAudit

section Shown

variable {α β γ : Type} {f : α → β} {as as' : List α}

/-- What is decided by what is shown is the same where the same is shown. -/
theorem Grid.map_congr_of_map {g : α → γ} (hg : ∀ a a', f a = f a' → g a = g a')
    (h : as.map f = as'.map f) : as.map g = as'.map g := by
  rw [← List.forall₂_eq_eq_eq, List.forall₂_map_left_iff, List.forall₂_map_right_iff] at h ⊢
  exact h.imp hg

theorem Grid.neighbours_map (f : α → β) (as : List α) :
    neighbours (as.map f) = (neighbours as).map (Prod.map f f) := by
  rw [neighbours, neighbours, ← List.map_tail, List.zip_map]

/-- What is measured between neighbours is decided by what is shown of them. -/
theorem Grid.map_neighbours_congr {g : α → α → γ}
    (hg : ∀ a b a' b', f a = f a' → f b = f b' → g a b = g a' b') (h : as.map f = as'.map f) :
    ((neighbours as).map fun (a, b) => g a b) = (neighbours as').map fun (a, b) => g a b := by
  have hpairs := congrArg neighbours h
  rw [neighbours_map, neighbours_map] at hpairs
  refine map_congr_of_map ?_ hpairs
  rintro ⟨a, b⟩ ⟨a', b'⟩ hsame
  exact hg a b a' b' (congrArg Prod.fst hsame) (congrArg Prod.snd hsame)

end Shown

variable {es es' : List Element}

/-! ## Along a course -/

namespace Course

def start : Course → Element → Float
  | across => Element.left
  | down => Element.top

def stop : Course → Element → Float
  | across => Element.right
  | down => Element.bottom

def key (course : Course) (e : Element) : Int := Coordinate.rank (course.start e)

theorem before_iff (course : Course) (a b : Element) :
    course.before a b = true ↔ course.key a ≤ course.key b := by
  cases course <;> exact decide_eq_true_iff

theorem map_key_perm (course : Course) (h : (es.map Element.box).Perm (es'.map Element.box)) :
    (es.map course.key).Perm (es'.map course.key) := by
  have hkeys := h.map fun box => Coordinate.rank (match course with
    | across => box.left
    | down => box.top)
  rw [List.map_map, List.map_map] at hkeys
  cases course <;> exact hkeys

theorem gap_eq (course : Course) (a b : Element) :
    course.gap a b = course.start b - course.stop a := by
  cases course <;> rfl

/-- The gaps along a course depend on the order of delivery of the ends of elements that begin at one
place. -/
theorem gaps_of_perm (course : Course) (h : (es.map Element.box).Perm (es'.map Element.box))
    (hends : Grid.SameTies course.key course.stop es es') : course.gaps es = course.gaps es' := by
  -- Sorted by where they begin, both lists show the same beginnings and ends.
  have hkeys := course.map_key_perm h
  have hstarts : Grid.SameTies course.key course.start es es' :=
    .of_agree hkeys fun a _ b _ => Coordinate.rank_inj
  have hsorted := Grid.map_mergeSort_of_ties course.before_iff hkeys (hstarts.prod hends)
  refine Grid.map_neighbours_congr (fun a b a' b' ha hb => ?_) hsorted
  rw [Prod.mk.injEq] at ha hb
  rw [gap_eq, gap_eq, ha.2, hb.1]

end Course

/-! ## Within a row -/

namespace Grid

theorem columnGaps_congr {row row' : List Element}
    (h : row.map (fun e => (e.left, e.right)) = row'.map fun e => (e.left, e.right)) :
    columnGaps row = columnGaps row' := by
  -- Sorting looks at the left edges, so that it may as well be the edges that are sorted.
  have hsort (row : List Element) :
      (row.mergeSort leftOf).map (fun e => (e.left, e.right)) =
        (row.map fun e => (e.left, e.right)).mergeSort
          fun p q => Coordinate.rank p.1 ≤ Coordinate.rank q.1 :=
    List.map_mergeSort fun _ _ _ _ => rfl
  have hsorted : (row.mergeSort leftOf).map (fun e => (e.left, e.right)) =
      (row'.mergeSort leftOf).map fun e => (e.left, e.right) := by
    rw [hsort, hsort, h]
  refine map_neighbours_congr (g := fun a b => b.left - a.right) (fun a b a' b' ha hb => ?_) hsorted
  rw [Prod.mk.injEq] at ha hb
  rw [ha.2, hb.1]

/-- The gaps within rows depend on the order of delivery of the right edges of elements at one
place. -/
theorem columnGaps_of_perm (h : (es.map Element.box).Perm (es'.map Element.box))
    (hedges : SameTies key Element.right es es') :
    (rows es).map columnGaps = (rows es').map columnGaps := by
  have hsorted := map_mergeSort_of_ties before_iff (map_key_perm h) ((sameTies_place h).prod hedges)
  -- Both are cut into rows at the same places, and the rows show the same positions and right edges.
  have hrows := map_splitRows (fun a b hab => top_eq_of_place (congrArg Prod.fst hab)) hsorted
  refine map_congr_of_map (fun row row' hrow => columnGaps_congr ?_) hrows
  refine map_congr_of_map (fun a b hab => ?_) hrow
  rw [Prod.mk.injEq] at hab
  have hleft : a.left = b.left := congrArg Prod.snd hab.1
  rw [hleft, hab.2]

theorem map_length_rows_of_perm (h : (es.map Element.box).Perm (es'.map Element.box)) :
    (rows es).map List.length = (rows es').map List.length := by
  have hsorted := map_mergeSort_of_ties before_iff (map_key_perm h) (sameTies_place h)
  refine map_congr_of_map (fun row row' hrow => ?_) (map_place_splitRows hsorted)
  have hlength := congrArg List.length hrow
  rwa [List.length_map, List.length_map] at hlength

end Grid

/-! ## Findings -/

namespace Relation

open Grid

/-- How the findings of a table and of equal distances depend on the order of delivery.  A table has
the same findings in any order, if it has no margin between columns or the right edges of elements at
one place come in the same order, and if it has no margin between rows or the bottoms of elements at
one place whose tops are not finite do.  Equal distances are the same in any order in which the ends
of elements that begin at one place come in the same order. -/
theorem grid_checks_of_perm {es es' : List Element}
    (h : (es.map Element.box).Perm (es'.map Element.box)) (selector : String) :
    (∀ table : Table,
      (table.horizontal.isSome = true → SameTies key Element.right es es') →
      (table.vertical.isSome = true → SameTies key foot es es') →
      tabular table ⟨selector, es⟩ = tabular table ⟨selector, es'⟩) ∧
    (∀ (course : Course) (tolerance : Float),
      SameTies course.key course.stop es es' →
      evenlySpaced course tolerance ⟨selector, es⟩ =
        evenlySpaced course tolerance ⟨selector, es'⟩) := by
  constructor
  · intro table hedges hfeet
    exact tabular_congr (map_length_rows_of_perm h)
      (fun hmargin => columnGaps_of_perm h (hedges hmargin))
      (fun hmargin => marginGaps_of_perm h (hfeet hmargin))
  · intro course tolerance hends
    exact evenlySpaced_congr (course.gaps_of_perm h hends)

/-- A square at the origin. -/
def corner (label : String) (side : Float) : Element := .shownAt label ⟨0.0, 0.0, side, side⟩

/-- A square to the right of the origin and below it. -/
def beyond : Element := .shownAt "c" ⟨10.0, 10.0, 10.0, 10.0⟩

/-- Two squares of one size at the origin, and one elsewhere, in two orders. -/
theorem grid_checks_of_squares :
    let table : Table := ⟨1, some (.exactly 10.0), some (.exactly 10.0)⟩
    let es := [corner "a" 10.0, corner "b" 10.0, beyond]
    let es' := [beyond, corner "b" 10.0, corner "a" 10.0]
    (es.map Element.box).Perm (es'.map Element.box) ∧
      tabular table ⟨"d", es⟩ = tabular table ⟨"d", es'⟩ ∧
      evenlySpaced .across 1.0 ⟨"d", es⟩ = evenlySpaced .across 1.0 ⟨"d", es'⟩ := by
  intro table es es'
  have hperm : (es.map Element.box).Perm (es'.map Element.box) := (List.reverse_perm es').map _
  have hkeys := map_key_perm hperm
  have hedges : SameTies key Element.right es es' := .of_agree hkeys (by decide +kernel)
  have hfeet : SameTies key foot es es' := .of_agree hkeys (by decide +kernel)
  have hends : SameTies Course.across.key Course.across.stop es es' :=
    .of_agree (Course.across.map_key_perm hperm) (by decide +kernel)
  refine ⟨hperm, ?_, ?_⟩
  · exact (grid_checks_of_perm hperm "d").1 table (fun _ => hedges) (fun _ => hfeet)
  · exact (grid_checks_of_perm hperm "d").2 .across 1.0 hends

section Corners

variable (k l : String) (m n : Float)

-- Squares at the origin are taken in the order of delivery, whatever their sizes.
theorem rows_corners : rows [corner k m, corner l n] = [[corner k m, corner l n]] := by
  have hsame : before (corner k m) (corner l n) = true := (before_iff _ _).2 le_rfl
  have hsorted : [corner k m, corner l n].mergeSort before = [corner k m, corner l n] :=
    List.mergeSort_of_pairwise (by simpa using hsame)
  have hnear : sameRow (corner k m) (corner l n) = true :=
    (sameRow_self (corner k m)).trans (by decide : Float.isFinite 0.0 = true)
  rw [rows, hsorted]
  simp [splitRows, splitAfter, hnear]

theorem columnGaps_corners : columnGaps [corner k m, corner l n] = [0.0 - (0.0 + m)] := by
  have hsame : leftOf (corner k m) (corner l n) = true := decide_eq_true le_rfl
  have hsorted : [corner k m, corner l n].mergeSort leftOf = [corner k m, corner l n] :=
    List.mergeSort_of_pairwise (by simpa using hsame)
  rw [columnGaps, hsorted]
  rfl

theorem gaps_corners (course : Course) :
    course.gaps [corner k m, corner l n, beyond] = [0.0 - (0.0 + m), 10.0 - (0.0 + n)] := by
  have hrank : Coordinate.rank 0.0 ≤ Coordinate.rank 10.0 := by decide
  have hsame : course.before (corner k m) (corner l n) = true := by
    rw [course.before_iff]
    cases course <;> exact le_rfl
  have hbeyond : ∀ label side, course.before (corner label side) beyond = true := by
    intro label side
    rw [course.before_iff]
    cases course <;> exact hrank
  have hsorted : [corner k m, corner l n, beyond].mergeSort course.before =
      [corner k m, corner l n, beyond] :=
    List.mergeSort_of_pairwise (by simp [hsame, hbeyond])
  rw [Course.gaps, hsorted]
  cases course <;> rfl

end Corners

/-- Of two squares of different sizes at the origin the one delivered last is taken as the last: the
gap behind it is wide or narrow. -/
theorem grid_checks_show_order :
    (¬ ∀ (table : Table) (selector : String) (es es' : List Element), es.Perm es' →
      tabular table ⟨selector, es⟩ = tabular table ⟨selector, es'⟩) ∧
    ∀ course : Course, ¬ ∀ (tolerance : Float) (selector : String) (es es' : List Element),
      es.Perm es' →
      evenlySpaced course tolerance ⟨selector, es⟩ =
        evenlySpaced course tolerance ⟨selector, es'⟩ := by
  constructor
  · intro h
    let table : Table := ⟨2, some (.exactly (-10.0)), none⟩
    have hsame := h table "d" _ _ (List.Perm.swap (corner "b" 20.0) (corner "a" 10.0) [])
    -- The gap from the large square to the small one is twice what it is the other way round.
    have hreported : tabular table ⟨"d", [corner "b" 20.0, corner "a" 10.0]⟩ ≠ [] :=
      tabular_ne_nil_of_column rfl (rows_corners .. ▸ List.mem_singleton_self _)
        (columnGaps_corners .. ▸ List.mem_singleton_self _) (by decide +kernel)
    have hgaps : rowGaps "d" (.exactly (-10.0)) 0 [corner "a" 10.0, corner "b" 20.0] = [] := by
      refine rowGaps_eq_nil fun gap hgap => ?_
      rw [columnGaps_corners, List.mem_singleton] at hgap
      rw [hgap]
      decide +kernel
    have hclean : tabular table ⟨"d", [corner "a" 10.0, corner "b" 20.0]⟩ = [] := by
      simp [tabular, rows_corners, withinRow, rowWidth, require, allBetweenRows, table, hgaps]
    exact hreported (hsame.symm.trans hclean)
  · intro course h
    have hsame := h 1.0 "d" _ _ (List.Perm.swap (corner "b" 20.0) (corner "a" 10.0) [beyond])
    -- With the small square first both gaps are the same; with the large one first they are not.
    have hlength := congrArg List.length hsame
    rw [length_evenlySpaced, length_evenlySpaced] at hlength
    simp only [gaps_corners] at hlength
    exact absurd hlength (by decide +kernel)

end Relation
end LayoutAudit
