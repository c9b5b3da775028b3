import LayoutAudit.Coordinate
import LayoutAudit.Proofs.Coordinate.Order
import Mathlib.Algebra.Order.Ring.Int
import Mathlib.Data.Prod.Lex

/-!
# Proofs.Coordinate.Extreme — the greatest of several doubles

Defined doubles stand in an order in which the two zeros share a place.  The greatest of several is
found from left to right, and is undefined at no point; which of several doubles at the same place it
is depends on the order in which they are taken, and that makes a difference between zeros only.

* `Coordinate.level` — the place of a double in this order;
* `Coordinate.foldl_mem` — what is kept is one of those that were seen;
* `Coordinate.foldl_greatest_of_perm` — the greatest of several depends on their order only as far as
  zeros go.
-/

namespace LayoutAudit
namespace Coordinate

open Float.Model (UnpackedFloat)

/-! ## Levels -/

/-- The place of what is defined among all numbers: first the sign, then the size. -/
def level : UnpackedFloat → Int ×ₗ Int ×ₗ Int
  | .infinity .negative => toLex (-2, toLex (0, 0))
  | .finite .negative m e _ => toLex (-1, toLex (-e, -m))
  | .finite .positive m e _ => toLex (1, toLex (e, m))
  | .infinity .positive => toLex (2, toLex (0, 0))
  | _ => toLex (0, toLex (0, 0))

theorem compare_neg_neg (i j : Int) : compare (-i) (-j) = (compare i j).swap := by
  have hanti : StrictAnti fun k : Int => -k := fun _ _ h => Int.neg_lt_neg h
  rw [← cmp_eq_compare, ← cmp_eq_compare, cmp_swap]
  exact hanti.cmp_map_eq i j

theorem compare_natCast (m n : Nat) : compare (m : Int) (n : Int) = compare m n := by
  have hmono : StrictMono fun k : Nat => (k : Int) := fun _ _ h => Int.ofNat_lt.2 h
  rw [← cmp_eq_compare, ← cmp_eq_compare]
  exact hmono.cmp_map_eq m n

/-- Places of one kind are compared by their sizes. -/
theorem compare_places (kind e e' m m' : Int) :
    compare (toLex (kind, toLex (e, m))) (toLex (kind, toLex (e', m'))) =
      (compare e e').then (compare m m') := by
  simp [Prod.Lex.compare_def, compareLex, compareOn]

theorem compare_eq_level {u v : UnpackedFloat} (hu : u ≠ .notANumber) (hv : v ≠ .notANumber) :
    u.compare v = some (compare (level u) (level v)) := by
  cases u with
  | notANumber => exact absurd rfl hu
  | infinity s =>
      cases v with
      | notANumber => exact absurd rfl hv
      | infinity s' => cases s <;> cases s' <;> rfl
      | zero s' => cases s <;> rfl
      | finite s' m e hm => cases s <;> cases s' <;> rfl
  | zero s =>
      cases v with
      | notANumber => exact absurd rfl hv
      | infinity s' => cases s' <;> rfl
      | zero s' => rfl
      | finite s' m e hm => cases s' <;> rfl
  | finite s m e hm =>
      cases v with
      | notANumber => exact absurd rfl hv
      | infinity s' => cases s <;> cases s' <;> rfl
      | zero s' => cases s <;> rfl
      | finite s' m' e' hm' =>
          -- Numbers of one sign are compared by their sizes, and below zero the other way round.
          cases s with
          | negative =>
              cases s' with
              | negative =>
                  have hplaces := compare_places (-1) (-e) (-e') (-m) (-m')
                  rw [compare_neg_neg, compare_neg_neg, compare_natCast] at hplaces
                  rw [compare_negative, Ordering.swap_then]
                  exact congrArg some hplaces.symm
              | positive => rfl
          | positive =>
              cases s' with
              | negative => rfl
              | positive =>
                  have hplaces := compare_places 1 e e' m m'
                  rw [compare_natCast] at hplaces
                  rw [compare_positive]
                  exact congrArg some hplaces.symm

/-- What compares as equal is the same, or zero. -/
theorem eq_or_zero_of_compare {u v : UnpackedFloat} (h : u.compare v = some .eq) :
    u = v ∨ ∃ s s', u = .zero s ∧ v = .zero s' := by
  cases u with
  | notANumber => cases h
  | infinity s =>
      cases v with
      | notANumber => cases h
      | infinity s' => cases s <;> cases s' <;> first | exact .inl rfl | cases h
      | zero s' => cases s <;> cases h
      | finite s' m e hm => cases s <;> cases h
  | zero s =>
      cases v with
      | notANumber => cases h
      | infinity s' => cases s' <;> cases h
      | zero s' => exact .inr ⟨s, s', rfl, rfl⟩
      | finite s' m e hm => cases s' <;> cases h
  | finite s m e hm =>
      cases v with
      | notANumber => cases h
      | infinity s' => cases s' <;> cases h
      | zero s' => cases s <;> cases h
      | finite s' m' e' hm' =>
          -- Signs that differ decide the comparison, and otherwise sizes that do.
          have hsize (h : (compare e e').then (compare m m') = .eq) : e = e' ∧ m = m' := by
            rw [Ordering.then_eq_eq, compare_eq_iff_eq, compare_eq_iff_eq] at h
            exact h
          cases s with
          | negative =>
              cases s' with
              | negative =>
                  rw [compare_negative, Option.some.injEq, Ordering.swap_eq_iff_eq_swap] at h
                  rcases hsize h with ⟨rfl, rfl⟩
                  exact .inl rfl
              | positive => cases h
          | positive =>
              cases s' with
              | negative => cases h
              | positive =>
                  rw [compare_positive, Option.some.injEq] at h
                  rcases hsize h with ⟨rfl, rfl⟩
                  exact .inl rfl

/-! ## The greatest of several -/

section Fold

variable {op : Float → Float → Float}

theorem foldl_mem (hop : ∀ a b, op a b = a ∨ op a b = b) (acc : Float) (xs : List Float) :
    xs.foldl op acc ∈ acc :: xs := by
  -- What is kept on the way is one of those that were seen, whatever it was at the start.
  induction xs generalizing acc with
  | nil => exact List.mem_singleton.2 rfl
  | cons x rest ih =>
      rw [List.foldl_cons]
      rcases List.mem_cons.1 (ih (op acc x)) with heq | hlater
      · rw [heq]
        rcases hop acc x with hacc | hx
        · rw [hacc]
          exact List.mem_cons_self
        · rw [hx]
          exact List.mem_cons_of_mem _ List.mem_cons_self
      · exact List.mem_cons_of_mem _ (List.mem_cons_of_mem _ hlater)

end Fold

theorem least_eq_or (a b : Float) : least a b = a ∨ least a b = b := by
  unfold least
  split_ifs <;> simp

theorem greatest_eq_or (a b : Float) : greatest a b = a ∨ greatest a b = b := by
  unfold greatest
  split_ifs <;> simp

variable {x y : Float}

theorem parts_ne_of_defined (h : x.isNaN = false) : parts x ≠ .notANumber := by
  have hnan : x.isNaN = (parts x).isNaN := rfl
  intro hparts
  rw [hnan, hparts] at h
  cases h

theorem lt_iff_level (hx : x.isNaN = false) (hy : y.isNaN = false) :
    x < y ↔ level (parts x) < level (parts y) := by
  rw [lt_iff, compare_eq_level (parts_ne_of_defined hx) (parts_ne_of_defined hy),
    Option.some.injEq, compare_lt_iff_lt]

/-- Of a defined double and another one the greatest is defined, and stands no lower than either. -/
theorem level_le_greatest (hx : x.isNaN = false) (y : Float) :
    (greatest x y).isNaN = false ∧ level (parts x) ≤ level (parts (greatest x y)) ∧
      (y.isNaN = false → level (parts y) ≤ level (parts (greatest x y))) := by
  by_cases hlt : x < y
  · have hy : y.isNaN = false := by
      rw [Bool.eq_false_iff]
      exact fun hnan => not_gt_of_isNaN hnan x hlt
    have hy' : greatest x y = y := by rw [greatest, hx, if_neg Bool.false_ne_true, if_pos hlt]
    rw [hy']
    exact ⟨hy, ((lt_iff_level hx hy).1 hlt).le, fun _ => le_rfl⟩
  · have hx' : greatest x y = x := by rw [greatest, hx, if_neg Bool.false_ne_true, if_neg hlt]
    rw [hx']
    exact ⟨hx, le_rfl, fun hy => not_lt.1 fun h => hlt ((lt_iff_level hx hy).2 h)⟩

/-- The greatest of several is defined, and stands no lower than any of them. -/
theorem level_le_foldl_greatest {acc : Float} (hacc : acc.isNaN = false) (xs : List Float) :
    (xs.foldl greatest acc).isNaN = false ∧
      ∀ x ∈ acc :: xs, x.isNaN = false → level (parts x) ≤ level (parts (xs.foldl greatest acc)) := by
  -- What was seen stands no lower than what is kept, and that only rises.
  induction xs generalizing acc with
  | nil =>
      refine ⟨hacc, fun x hx _ => ?_⟩
      rw [List.mem_singleton.1 hx]
      exact le_rfl
  | cons y rest ih =>
      rcases level_le_greatest hacc y with ⟨hdefined, hle, hle'⟩
      rcases ih hdefined with ⟨hresult, hkept⟩
      have hrise := hkept _ List.mem_cons_self hdefined
      refine ⟨hresult, fun x hx hnan => ?_⟩
      rcases List.mem_cons.1 hx with rfl | hx
      · exact hle.trans hrise
      rcases List.mem_cons.1 hx with rfl | hx
      · exact (hle' hnan).trans hrise
      · exact hkept x (List.mem_cons_of_mem _ hx) hnan

/-- The greatest of several depends on their order only as far as zeros go. -/
theorem foldl_greatest_of_perm {acc : Float} (hacc : acc.isNaN = false) {xs ys : List Float}
    (h : xs.Perm ys) :
    parts (xs.foldl greatest acc) = parts (ys.foldl greatest acc) ∨
      ∃ s s', parts (xs.foldl greatest acc) = .zero s ∧ parts (ys.foldl greatest acc) = .zero s' := by
  rcases level_le_foldl_greatest hacc xs with ⟨hdefined, hle⟩
  rcases level_le_foldl_greatest hacc ys with ⟨hdefined', hle'⟩
  -- Each of the two is among those that the other one is no lower than.
  have hmem := ((h.cons acc).mem_iff).1 (foldl_mem greatest_eq_or acc xs)
  have hmem' := ((h.cons acc).mem_iff).2 (foldl_mem greatest_eq_or acc ys)
  have hlevel := le_antisymm (hle' _ hmem hdefined) (hle _ hmem' hdefined')
  refine eq_or_zero_of_compare ?_
  rw [compare_eq_level (parts_ne_of_defined hdefined) (parts_ne_of_defined hdefined'), hlevel,
    compare_eq_iff_eq.2 rfl]

end Coordinate
end LayoutAudit
