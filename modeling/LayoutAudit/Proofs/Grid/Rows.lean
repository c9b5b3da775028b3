import LayoutAudit.Proofs.Grid.Order
import Mathlib.Data.List.Chain

/-!
# Proofs.Grid.Rows — what a division into rows is

The sorted elements are cut into rows.  Behind the first of a row stand those that are near it in
height, and the next row begins with the first that is not.

* `Grid.Formed`, `Grid.Apart` — one row, and two rows in succession;
* `Grid.Division` — sorted elements cut into rows;
* `Grid.division_splitRows` — the greedy pass gives such a division;
* `Grid.map_splitRows`, `Grid.map_place_splitRows` — where it cuts depends on the tops only;
* `Grid.rows_of_elements` — the rows of elements, whatever their coordinates.
-/

namespace LayoutAudit
namespace Grid

/-- A row begins with an element, and those behind it are near that in height. -/
def Formed (row : List Element) : Prop :=
  ∃ first rest, row = first :: rest ∧ ∀ e ∈ rest, sameRow first e = true

/-- The second row begins with an element that is not near the first of the row before. -/
def Apart (row next : List Element) : Prop :=
  ∃ first ∈ row.head?, ∃ e ∈ next.head?, sameRow first e = false

/-- A list cut into rows. -/
structure Division (es : List Element) (rows : List (List Element)) : Prop where
  flatten_eq : rows.flatten = es
  formed : ∀ row ∈ rows, Formed row
  chain : rows.IsChain Apart

/-! ## The greedy pass -/

/-- An element goes into the row that is under way. -/
theorem Division.extend {first e : Element} {rest row : List Element} {rows : List (List Element)}
    (h : Division (first :: rest) ((first :: row) :: rows)) (he : sameRow first e = true) :
    Division (first :: e :: rest) ((first :: e :: row) :: rows) where
  flatten_eq := by
    have hrest := h.flatten_eq
    simp only [List.flatten_cons, List.cons_append, List.cons.injEq, true_and] at hrest ⊢
    exact hrest
  formed := by
    intro other hother
    rcases List.mem_cons.1 hother with rfl | hlater
    · rcases h.formed _ List.mem_cons_self with ⟨first', rest', hrow, hnear⟩
      cases hrow
      refine ⟨first, e :: row, rfl, fun e' he' => ?_⟩
      rcases List.mem_cons.1 he' with rfl | hold
      · exact he
      · exact hnear e' hold
    · exact h.formed other (List.mem_cons_of_mem _ hlater)
  chain := by
    -- Whether two rows are apart depends on their first elements only.
    have hchain := h.chain
    cases rows with
    | nil => simp
    | cons next later =>
        rw [List.isChain_cons_cons] at hchain ⊢
        exact hchain

/-- An element begins a row of its own. -/
theorem Division.begin {first e : Element} {rest row : List Element} {rows : List (List Element)}
    (h : Division (e :: rest) ((e :: row) :: rows)) (he : sameRow first e = false) :
    Division (first :: e :: rest) ([first] :: (e :: row) :: rows) where
  flatten_eq := by
    rw [List.flatten_cons, h.flatten_eq]
    rfl
  formed := by
    intro other hother
    rcases List.mem_cons.1 hother with rfl | hlater
    · exact ⟨first, [], rfl, by simp⟩
    · exact h.formed other hlater
  chain := by
    rw [List.isChain_cons_cons]
    exact ⟨⟨first, rfl, e, rfl, he⟩, h.chain⟩

theorem division_splitAfter (first : Element) (es : List Element) :
    Division (first :: es) ((first :: (splitAfter first es).1) :: (splitAfter first es).2) := by
  -- A row may begin on the way, so that the induction is for whichever element began it.
  induction es generalizing first with
  | nil => exact ⟨rfl, by simpa [splitAfter] using ⟨first, [], rfl, by simp⟩, by simp [splitAfter]⟩
  | cons e rest ih =>
      cases he : sameRow first e with
      | true => simpa [splitAfter, he] using (ih first).extend he
      | false => simpa [splitAfter, he] using (ih e).begin he

theorem division_splitRows (es : List Element) : Division es (splitRows es) := by
  cases es with
  | nil => exact ⟨rfl, by simp [splitRows], by simp [splitRows]⟩
  | cons first rest => exact division_splitAfter first rest

/-! ## Tops decide -/

theorem sameRow_congr {first first' e e' : Element} (hfirst : first.top = first'.top)
    (he : e.top = e'.top) : sameRow first e = sameRow first' e' := by
  rw [sameRow, sameRow, hfirst, he]

section Shown

variable {β : Type} {f : Element → β} {es es' : List Element}

/-- Lists that show the same, tops included, are cut at the same places. -/
theorem map_splitAfter (hf : ∀ a b, f a = f b → a.top = b.top) {first first' : Element}
    (hfirst : f first = f first') (hes : es.map f = es'.map f) :
    (splitAfter first es).1.map f = (splitAfter first' es').1.map f ∧
      (splitAfter first es).2.map (List.map f) = (splitAfter first' es').2.map (List.map f) := by
  -- Both passes go through their lists in step, and take the same branch each time.
  induction es generalizing first first' es' with
  | nil =>
      have hnil : es' = [] := by simpa using hes.symm
      simp [hnil, splitAfter]
  | cons e rest ih =>
      cases es' with
      | nil => cases hes
      | cons e' rest' =>
          rw [List.map_cons, List.map_cons, List.cons.injEq] at hes
          have hsame := sameRow_congr (hf _ _ hfirst) (hf _ _ hes.1)
          cases he : sameRow first e with
          | true =>
              rw [he] at hsame
              have hrest := ih hfirst hes.2
              simp [splitAfter, he, ← hsame, hes.1, hrest.1, hrest.2]
          | false =>
              rw [he] at hsame
              have hrest := ih hes.1 hes.2
              simp [splitAfter, he, ← hsame, hes.1, hrest.1, hrest.2]

theorem map_splitRows (hf : ∀ a b, f a = f b → a.top = b.top) (hes : es.map f = es'.map f) :
    (splitRows es).map (List.map f) = (splitRows es').map (List.map f) := by
  cases es with
  | nil =>
      have hnil : es' = [] := by simpa using hes.symm
      rw [hnil]
  | cons first rest =>
      cases es' with
      | nil => cases hes
      | cons first' rest' =>
          rw [List.map_cons, List.map_cons, List.cons.injEq] at hes
          have hrest := map_splitAfter hf hes.1 hes.2
          simp [splitRows, hes.1, hrest.1, hrest.2]

end Shown

theorem top_eq_of_place {a b : Element} (h : place a = place b) : a.top = b.top :=
  congrArg Prod.fst h

theorem map_place_splitRows {es es' : List Element} (hes : es.map place = es'.map place) :
    (splitRows es).map (List.map place) = (splitRows es').map (List.map place) :=
  map_splitRows (fun _ _ => top_eq_of_place) hes

/-! ## Rows of elements -/

theorem flatten_rows (es : List Element) : (rows es).flatten = es.mergeSort before :=
  (division_splitRows (es.mergeSort before)).flatten_eq

/-- An element is near itself exactly if its top is finite. -/
theorem sameRow_self (e : Element) : sameRow e e = e.top.isFinite := by
  rw [Bool.eq_iff_iff, sameRow, decide_eq_true_iff]
  exact Coordinate.abs_sub_self_le_iff e.top

/-- What the rows of elements are, whatever their coordinates.  They hold each element once, in the
order of top and left, and elements at the same position in the order of delivery.  Each begins with
an element, and those behind it are near that one, as it is itself if its top is finite.  A row
begins with an element that is not near the first of the row before.  The positions, row by row, do
not depend on the order of delivery. -/
theorem rows_of_elements (es : List Element) :
    (rows es).flatten.Perm es ∧
    (rows es).flatten.Pairwise (fun a b => key a ≤ key b) ∧
    (∀ k, (rows es).flatten.filter (fun e => key e = k) = es.filter fun e => key e = k) ∧
    (∀ row ∈ rows es, ∃ first rest, row = first :: rest ∧
      (∀ e ∈ rest, sameRow first e = true) ∧ sameRow first first = first.top.isFinite) ∧
    (rows es).IsChain (fun row next =>
      ∃ first ∈ row.head?, ∃ e ∈ next.head?, sameRow first e = false) ∧
    (∀ es' : List Element, es.Perm es' →
      (rows es).map (List.map place) = (rows es').map (List.map place)) := by
  have hdivision := division_splitRows (es.mergeSort before)
  rw [flatten_rows]
  refine ⟨List.mergeSort_perm es before, pairwise_key_mergeSort es, filter_key_mergeSort es, ?_,
    hdivision.chain, ?_⟩
  · intro row hrow
    rcases hdivision.formed row hrow with ⟨first, rest, heq, hnear⟩
    exact ⟨first, rest, heq, hnear, sameRow_self first⟩
  · intro es' hperm
    exact map_place_splitRows (map_place_mergeSort hperm)

/-- An element whose top is undefined begins a row, and is not near the first of that row, which is
itself. -/
theorem undefined_top_not_in_own_row :
    ¬ ∀ row ∈ rows [Element.shownAt "a" ⟨0.0, 0.0 / 0.0, 10.0, 10.0⟩],
      ∀ first ∈ row.head?, ∀ e ∈ row, sameRow first e = true := by
  intro h
  have hrows : rows [Element.shownAt "a" ⟨0.0, 0.0 / 0.0, 10.0, 10.0⟩] =
      [[Element.shownAt "a" ⟨0.0, 0.0 / 0.0, 10.0, 10.0⟩]] := by
    simp [rows, splitRows, splitAfter]
  rw [hrows] at h
  have hself := h _ List.mem_cons_self _ rfl _ List.mem_cons_self
  rw [sameRow_self] at hself
  exact absurd hself (by decide)

/-- Two elements, in either order. -/
theorem rows_of_two_elements :
    let a := Element.shownAt "a" ⟨0.0, 0.0, 10.0, 10.0⟩
    let b := Element.shownAt "b" ⟨20.0, 30.0, 10.0, 10.0⟩
    [a, b].Perm [b, a] ∧
      (rows [a, b]).map (List.map place) = (rows [b, a]).map (List.map place) := by
  intro a b
  have hperm : [a, b].Perm [b, a] := List.Perm.swap b a []
  exact ⟨hperm, (rows_of_elements [a, b]).2.2.2.2.2 [b, a] hperm⟩

end Grid
end LayoutAudit
