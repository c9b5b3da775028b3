import Mathlib.Data.List.Basic
import Mathlib.Order.Lattice

/-!
# Proofs.Grid.Sorting — what sorting does to ties

Sorting by a key leaves those that tie, with the same key, in the order in which they were delivered.
What is delivered in another order is therefore sorted into the same keys, and ties apart into the same
items.

* `Grid.pairwise_mergeSort`, `Grid.filter_mergeSort` — sorting is by the key, and stable;
* `Grid.SameTies` — two lists show the same of what ties, in the order of delivery;
* `Grid.map_mergeSort_of_ties` — such lists show the same when they are sorted.
-/

namespace LayoutAudit
namespace Grid

variable {α β κ : Type} [LinearOrder κ] {key : α → κ} {le : α → α → Bool} {es es' : List α}

section Order

variable (hle : ∀ a b, le a b = true ↔ key a ≤ key b)
include hle

theorem le_trans_of_key (a b c : α) (hab : le a b = true) (hbc : le b c = true) : le a c = true := by
  rw [hle] at *
  exact hab.trans hbc

theorem le_total_of_key (a b : α) : (le a b || le b a) = true := by
  rw [Bool.or_eq_true, hle, hle]
  exact le_total (key a) (key b)

theorem pairwise_mergeSort (es : List α) :
    (es.mergeSort le).Pairwise fun a b => key a ≤ key b :=
  (List.pairwise_mergeSort (le_trans_of_key hle) (le_total_of_key hle) es).imp (hle _ _).1

/-- Items with the same key keep the order of delivery. -/
theorem filter_mergeSort (es : List α) (k : κ) :
    (es.mergeSort le).filter (fun e => key e = k) = es.filter fun e => key e = k := by
  -- They are in order before sorting, so that sorting leaves them a sublist.
  have hties : (es.filter fun e => key e = k).Pairwise fun a b => le a b = true := by
    refine List.pairwise_of_forall_mem_list fun a ha b hb => ?_
    have hka : key a = k := by simpa using (List.mem_filter.1 ha).2
    have hkb : key b = k := by simpa using (List.mem_filter.1 hb).2
    exact (hle a b).2 (hka.trans hkb.symm).le
  have hsublist := (List.sublist_mergeSort (le_trans_of_key hle) (le_total_of_key hle) hties
    List.filter_sublist).filter fun e => key e = k
  simp only [List.filter_filter, Bool.and_self] at hsublist
  have hlength := ((List.mergeSort_perm es le).filter fun e => key e = k).length_eq
  exact (hsublist.eq_of_length (by simp [hlength])).symm

/-- The sorted keys do not depend on the order of delivery. -/
theorem map_key_mergeSort (h : (es.map key).Perm (es'.map key)) :
    (es.mergeSort le).map key = (es'.mergeSort le).map key := by
  have hperm : ((es.mergeSort le).map key).Perm ((es'.mergeSort le).map key) :=
    calc
      ((es.mergeSort le).map key).Perm (es.map key) := (List.mergeSort_perm es le).map key
      List.Perm _ (es'.map key) := h
      List.Perm _ ((es'.mergeSort le).map key) := ((List.mergeSort_perm es' le).map key).symm
  have hsorted (es : List α) : ((es.mergeSort le).map key).Pairwise (· ≤ ·) :=
    List.pairwise_map.2 (pairwise_mergeSort hle es)
  exact hperm.eq_of_pairwise (fun _ _ _ _ => le_antisymm) (hsorted es) (hsorted es')

end Order

/-! ## Ties -/

/-- What `f` shows of the items with a key is the same in both lists, and in the same order. -/
def SameTies (key : α → κ) (f : α → β) (es es' : List α) : Prop :=
  ∀ k, (es.filter fun e => key e = k).map f = (es'.filter fun e => key e = k).map f

theorem SameTies.prod {γ : Type} {f : α → β} {g : α → γ} (hf : SameTies key f es es')
    (hg : SameTies key g es es') : SameTies key (fun e => (f e, g e)) es es' := by
  intro k
  rw [← List.zip_map', ← List.zip_map', hf k, hg k]

theorem length_filter_key (es : List α) (k : κ) :
    (es.filter fun e => key e = k).length = (es.map key).count k := by
  rw [List.count, List.countP_map, List.countP_eq_length_filter]
  rfl

/-- Where items that tie show the same, their order does not matter. -/
theorem SameTies.of_agree {f : α → β} (h : (es.map key).Perm (es'.map key))
    (hagree : ∀ a ∈ es ++ es', ∀ b ∈ es ++ es', key a = key b → f a = f b) :
    SameTies key f es es' := by
  intro k
  -- On both sides there are as many of them, and what one shows all show.
  have hlength : (es.filter fun e => key e = k).length = (es'.filter fun e => key e = k).length := by
    rw [length_filter_key, length_filter_key, h.count_eq]
  refine List.ext_getElem (by simpa using hlength) fun i hi hi' => ?_
  rw [List.getElem_map, List.getElem_map]
  have hmem := List.mem_filter.1 (List.getElem_mem (List.length_map f ▸ hi))
  have hmem' := List.mem_filter.1 (List.getElem_mem (List.length_map f ▸ hi'))
  refine hagree _ (List.mem_append_left _ hmem.1) _ (List.mem_append_right _ hmem'.1) ?_
  exact (of_decide_eq_true hmem.2).trans (of_decide_eq_true hmem'.2).symm

/-- Lists with the same keys that show the same of what ties show the same altogether. -/
theorem map_eq_of_ties {f : α → β} (hkeys : es.map key = es'.map key)
    (hties : SameTies key f es es') : es.map f = es'.map f := by
  induction es generalizing es' with
  | nil =>
      have hnil : es' = [] := by simpa using hkeys.symm
      rw [hnil]
  | cons a rest ih =>
      cases es' with
      | nil => cases hkeys
      | cons a' rest' =>
          rw [List.map_cons, List.map_cons, List.cons.injEq] at hkeys
          have hfirst := hties (key a)
          simp only [List.filter_cons, ← hkeys.1, decide_true, if_true, List.map_cons,
            List.cons.injEq] at hfirst
          -- What ties with the first goes on as after it, and of other keys nothing is removed.
          have hrest : SameTies key f rest rest' := by
            intro k
            by_cases hk : key a = k
            · exact hk ▸ hfirst.2
            · simpa [List.filter_cons, ← hkeys.1, hk] using hties k
          rw [List.map_cons, List.map_cons, hfirst.1, ih hkeys.2 hrest]

/-- So what sorted items show depends on the order of delivery of ties only. -/
theorem map_mergeSort_of_ties {f : α → β} (hle : ∀ a b, le a b = true ↔ key a ≤ key b)
    (h : (es.map key).Perm (es'.map key)) (hties : SameTies key f es es') :
    (es.mergeSort le).map f = (es'.mergeSort le).map f := by
  refine map_eq_of_ties (map_key_mergeSort hle h) fun k => ?_
  rw [filter_mergeSort hle, filter_mergeSort hle]
  exact hties k

end Grid
end LayoutAudit
