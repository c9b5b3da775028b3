import LayoutAudit.Grid.Rows
import LayoutAudit.Proofs.Coordinate.Order
import LayoutAudit.Proofs.Grid.Sorting
import Mathlib.Data.Prod.Lex

/-!
# Proofs.Grid.Order — the order in which elements are taken

Elements are sorted by top and then by left, in the total order of all doubles.  No two doubles have
the same rank, so that the sorted positions do not depend on the order of delivery, and elements at
the same position stay in that order.

* `Coordinate.abs_sub_self_le_iff`, `Coordinate.isFinite_of_abs_sub_le` — what is finite is within the
  tolerance of a row from itself, and nothing else is within it from anything;
* `Grid.key`, `Grid.before_iff` — the order of elements is that of their keys;
* `Grid.filter_key_mergeSort`, `Grid.map_place_mergeSort` — sorting is stable, and canonical, as any
  sorting by a key is.
-/

namespace LayoutAudit
namespace Coordinate

open Float.Model (UnpackedFloat)
open Float.Model.UnpackedFloat

/-- A double differs from itself by nothing if it is finite; else the difference is undefined. -/
theorem sub_self (x : Float) : x - x = if x.isFinite then 0.0 else 0.0 / 0.0 := by
  have hfinite : x.isFinite = (parts x).isFinite := rfl
  rw [sub_eq, hfinite]
  cases parts x with
  | infinity s => cases s <;> decide
  | notANumber => decide
  | zero s => cases s <;> decide
  | finite s m e hm =>
      have hzero : sub .binary64 (.finite s m e hm) (.finite s m e hm) = .zero .positive := by
        dsimp only [sub]
        rw [Int.sub_self]
        rfl
      rw [hzero]
      change Float.ofModel (.pack (.zero .positive)) = 0.0
      decide

/-- So it is within the tolerance of a row from itself exactly if it is finite. -/
theorem abs_sub_self_le_iff (x : Float) :
    (x - x).abs ≤ Grid.rowTolerance ↔ x.isFinite = true := by
  rw [sub_self]
  cases x.isFinite <;> decide

theorem isFinite_of_sub {u v : UnpackedFloat} (h : (sub .binary64 u v).isFinite = true) :
    u.isFinite = true ∧ v.isFinite = true := by
  cases u with
  | notANumber => cases h
  | infinity s =>
      cases v with
      | infinity s' => cases s <;> cases s' <;> cases h
      | _ => cases h
  | zero s =>
      cases v with
      | notANumber => cases h
      | infinity s' => cases h
      | _ => exact ⟨rfl, rfl⟩
  | finite s m e hm =>
      cases v with
      | notANumber => cases h
      | infinity s' => cases h
      | _ => exact ⟨rfl, rfl⟩

/-- What differs by no more than the tolerance of a row is finite. -/
theorem isFinite_of_abs_sub_le {x y : Float} (h : (x - y).abs ≤ Grid.rowTolerance) :
    x.isFinite = true ∧ y.isFinite = true := by
  rw [sub_eq] at h
  refine isFinite_of_sub (u := parts x) (v := parts y) ?_
  cases hdiff : sub .binary64 (parts x) (parts y) with
  | notANumber =>
      rw [hdiff] at h
      exact absurd h (by decide)
  | infinity s =>
      rw [hdiff] at h
      exact absurd h (by cases s <;> decide)
  | zero s => rfl
  | finite s m e hm => rfl

end Coordinate

namespace Grid

/-- The position of an element, as far as it is sorted by. -/
def place (e : Element) : Float × Float := (e.top, e.left)

/-- Positions are compared by top, and then by left. -/
def placeRank (p : Float × Float) : Int ×ₗ Int := toLex (Coordinate.rank p.1, Coordinate.rank p.2)

theorem placeRank_inj {p q : Float × Float} (h : placeRank p = placeRank q) : p = q := by
  have hranks := toLex.injective h
  exact Prod.ext (Coordinate.rank_inj (congrArg Prod.fst hranks))
    (Coordinate.rank_inj (congrArg Prod.snd hranks))

def key (e : Element) : Int ×ₗ Int := placeRank (place e)

theorem before_iff (a b : Element) : before a b = true ↔ key a ≤ key b := by
  simp [before, key, placeRank, place, Prod.Lex.toLex_le_toLex]

/-! ## Sorted elements -/

theorem pairwise_key_mergeSort (es : List Element) :
    (es.mergeSort before).Pairwise fun a b => key a ≤ key b :=
  pairwise_mergeSort before_iff es

/-- Elements with the same key keep the order of delivery. -/
theorem filter_key_mergeSort (es : List Element) (k : Int ×ₗ Int) :
    (es.mergeSort before).filter (fun e => key e = k) = es.filter fun e => key e = k :=
  filter_mergeSort before_iff es k

/-- The sorted positions do not depend on the order of delivery. -/
theorem map_place_mergeSort {es es' : List Element} (h : es.Perm es') :
    (es.mergeSort before).map place = (es'.mergeSort before).map place := by
  -- The sorted keys do not, and no two positions have the same key.
  have hkeys := map_key_mergeSort before_iff (h.map key)
  have hkey : key = placeRank ∘ place := rfl
  rw [hkey, ← List.map_map, ← List.map_map] at hkeys
  exact List.map_injective_iff.2 (fun _ _ => placeRank_inj) hkeys

end Grid
end LayoutAudit
