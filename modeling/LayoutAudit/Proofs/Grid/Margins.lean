import LayoutAudit.Proofs.Coordinate.Extreme
import LayoutAudit.Proofs.Coordinate.Sum
import LayoutAudit.Proofs.Grid.Gaps
import LayoutAudit.Proofs.Grid.Rows
import Mathlib.Data.List.Forall2

/-!
# Proofs.Grid.Margins — the gaps between rows

A gap between two rows is measured from the lowest bottom of the upper one.  The rows that the same
boxes fall into hold the same tops in any order of delivery, and no finite top occurs in two of them,
so that they hold the same bottoms as well.  The lowest of these is determined but for its sign if it
is zero, and no gap shows that sign.

* `Grid.Separate`, `Grid.Division.separate` — no finite top occurs in two rows;
* `Grid.Alike`, `Grid.alike_rows` — rows of the same boxes hold the same tops and bottoms;
* `Grid.margin_congr` — such rows have the same gaps;
* `Grid.marginGaps_of_perm` — gaps between rows do not depend on the order of delivery.
-/

namespace LayoutAudit
namespace Grid

/-- The bottom of an element whose top is not finite, so that no other element is near it. -/
def foot (e : Element) : Option Float := if e.top.isFinite then none else some e.bottom

/-! ## Rows do not share a top -/

/-- No finite top in the upper row occurs in the lower one. -/
def Separate (upper lower : List Element) : Prop :=
  ∀ a ∈ upper, ∀ b ∈ lower, a.top.isFinite = true → a.top ≠ b.top

theorem Formed.sameRow_head {first : Element} {rest : List Element} (h : Formed (first :: rest))
    {a : Element} (ha : a ∈ first :: rest) (hfinite : a.top.isFinite = true) :
    sameRow first a = true := by
  rcases h with ⟨first', rest', heq, hnear⟩
  cases heq
  rcases List.mem_cons.1 ha with rfl | hrest
  · rw [sameRow_self]
    exact hfinite
  · exact hnear a hrest

theorem top_le_of_key {a b : Element} (h : key a ≤ key b) :
    Coordinate.rank a.top ≤ Coordinate.rank b.top :=
  Prod.Lex.monotone_fst _ _ h

theorem key_head_le {e : Element} {row : List Element} {rows : List (List Element)}
    (hsorted : (row :: rows).flatten.Pairwise fun a b => key a ≤ key b) (he : e ∈ row.head?) :
    ∀ b ∈ (row :: rows).flatten, key e ≤ key b := by
  rcases List.head?_eq_some_iff.1 he with ⟨tail, rfl⟩
  intro b hb
  rw [List.flatten_cons, List.cons_append] at hsorted hb
  rcases List.mem_cons.1 hb with rfl | htail
  · exact le_rfl
  · exact (List.pairwise_cons.1 hsorted).1 b htail

/-- In sorted rows no finite top occurs in two of them. -/
theorem Division.separate {es : List Element} {rows : List (List Element)} (h : Division es rows)
    (hsorted : es.Pairwise fun a b => key a ≤ key b) : rows.Pairwise Separate := by
  -- The induction is on the rows: what is left after the first is divided in the same way.
  induction rows generalizing es with
  | nil => exact List.Pairwise.nil
  | cons upper later ih =>
      have hes := h.flatten_eq
      subst hes
      rw [List.flatten_cons, List.pairwise_append] at hsorted
      rcases hsorted with ⟨-, hlater, hacross⟩
      have hrest : Division later.flatten later :=
        ⟨rfl, fun row hrow => h.formed row (List.mem_cons_of_mem _ hrow), h.chain.tail⟩
      refine List.pairwise_cons.2 ⟨fun lower hlower a ha b hb hfinite heq => ?_, ih hrest hlater⟩
      cases later with
      | nil => cases hlower
      | cons next more =>
          rcases (List.isChain_cons_cons.1 h.chain).1 with ⟨first, hfirst, n, hn, hapart⟩
          -- The first of the next row stands between two of one top, and is of that top itself.
          have hb' : b ∈ (next :: more).flatten := List.mem_flatten.2 ⟨lower, hlower, hb⟩
          have hn' : n ∈ (next :: more).flatten :=
            List.mem_flatten.2 ⟨next, List.mem_cons_self, List.mem_of_mem_head? hn⟩
          have hbelow := top_le_of_key (hacross a ha n hn')
          have habove := top_le_of_key (key_head_le hlater hn b hb')
          rw [← heq] at habove
          have htop : n.top = a.top := Coordinate.rank_inj (le_antisymm habove hbelow)
          -- So it is near the first of the upper row, as the other is.
          rcases List.head?_eq_some_iff.1 hfirst with ⟨tail, rfl⟩
          have hnear := (h.formed _ List.mem_cons_self).sameRow_head ha hfinite
          rw [sameRow_congr rfl htop.symm, hapart] at hnear
          cases hnear

/-! ## Rows are determined by their tops -/

/-- A row of finite tops holds every element whose top occurs in it. -/
theorem filter_flatten_of_separate {rows : List (List Element)} (h : rows.Pairwise Separate)
    {row : List Element} (hrow : row ∈ rows) (hfinite : ∀ e ∈ row, e.top.isFinite = true) :
    rows.flatten.filter (fun e => ∃ a ∈ row, a.top = e.top) = row := by
  induction rows with
  | nil => cases hrow
  | cons upper later ih =>
      rw [List.pairwise_cons] at h
      rw [List.flatten_cons, List.filter_append]
      rcases List.mem_cons.1 hrow with rfl | hlater
      · -- It takes all of itself, and nothing from the rows below it.
        have hown : row.filter (fun e => ∃ a ∈ row, a.top = e.top) = row := by
          rw [List.filter_eq_self]
          exact fun e he => decide_eq_true ⟨e, he, rfl⟩
        have hothers : later.flatten.filter (fun e => ∃ a ∈ row, a.top = e.top) = [] := by
          rw [List.filter_eq_nil_iff]
          intro e he hshared
          rcases List.mem_flatten.1 he with ⟨lower, hlower, he⟩
          rcases of_decide_eq_true hshared with ⟨a, ha, heq⟩
          exact h.1 lower hlower a ha e he (hfinite a ha) heq
        rw [hown, hothers, List.append_nil]
      · have hupper : upper.filter (fun e => ∃ a ∈ row, a.top = e.top) = [] := by
          rw [List.filter_eq_nil_iff]
          intro e he hshared
          rcases of_decide_eq_true hshared with ⟨a, ha, heq⟩
          exact h.1 row hlater e he a ha (heq ▸ hfinite a ha) heq.symm
        rw [hupper, List.nil_append, ih h.2 hlater]

theorem separate_rows (es : List Element) : (rows es).Pairwise Separate :=
  (division_splitRows (es.mergeSort before)).separate (pairwise_key_mergeSort es)

/-- A row has finite tops only, or is an element by itself whose top is not finite. -/
theorem Formed.finite_or_alone {row : List Element} (h : Formed row) :
    (∀ e ∈ row, e.top.isFinite = true) ∨ ∃ e, row = [e] ∧ e.top.isFinite = false := by
  rcases h with ⟨first, rest, rfl, hnear⟩
  cases hfinite : first.top.isFinite with
  | true =>
      refine Or.inl fun e he => ?_
      rcases List.mem_cons.1 he with rfl | hrest
      · exact hfinite
      · exact (Coordinate.isFinite_of_abs_sub_le (of_decide_eq_true (hnear e hrest))).1
  | false =>
      -- Nothing is near the first, so that nothing stands behind it.
      cases rest with
      | nil => exact Or.inr ⟨first, rfl, hfinite⟩
      | cons e rest =>
          have hboth := Coordinate.isFinite_of_abs_sub_le
            (of_decide_eq_true (hnear e List.mem_cons_self))
          rw [hfinite] at hboth
          cases hboth.2

/-- What the gaps between rows depend on, apart from the tops: a position, and the bottom if the top
is not finite. -/
def stance (e : Element) : (Float × Float) × Option Float := (place e, foot e)

theorem top_eq_of_stance {a b : Element} (h : stance a = stance b) : a.top = b.top :=
  top_eq_of_place (congrArg Prod.fst h)

variable {es es' : List Element}

/-- Two rows for each other: of the same tops, and of the same bottoms in whatever order. -/
structure Alike (row row' : List Element) : Prop where
  tops : row.map Element.top = row'.map Element.top
  bottoms : (row.map Element.bottom).Perm (row'.map Element.bottom)

theorem map_key_perm (h : (es.map Element.box).Perm (es'.map Element.box)) :
    (es.map key).Perm (es'.map key) := by
  have hkeys := h.map fun box => placeRank (box.top, box.left)
  rwa [List.map_map, List.map_map] at hkeys

theorem sameTies_place (h : (es.map Element.box).Perm (es'.map Element.box)) :
    SameTies key place es es' :=
  .of_agree (map_key_perm h) fun _ _ _ _ => placeRank_inj

/-- Rows of the same boxes that hold the same tops, all of them finite, hold the same boxes. -/
theorem map_box_perm_of_tops (h : (es.map Element.box).Perm (es'.map Element.box))
    {row row' : List Element} (hrow : row ∈ rows es) (hrow' : row' ∈ rows es')
    (htops : row.map Element.top = row'.map Element.top)
    (hfinite : ∀ e ∈ row, e.top.isFinite = true) :
    (row.map Element.box).Perm (row'.map Element.box) := by
  have hshared (e : Element) : (∃ a ∈ row, a.top = e.top) ↔ ∃ a ∈ row', a.top = e.top := by
    rw [← List.mem_map, ← List.mem_map, htops]
  have hfinite' : ∀ e ∈ row', e.top.isFinite = true := by
    intro e he
    rcases (hshared e).2 ⟨e, he, rfl⟩ with ⟨a, ha, heq⟩
    exact heq ▸ hfinite a ha
  have hflatten :
      ((rows es).flatten.map Element.box).Perm ((rows es').flatten.map Element.box) := by
    rw [flatten_rows, flatten_rows]
    calc
      ((es.mergeSort before).map Element.box).Perm (es.map Element.box) :=
        (List.mergeSort_perm es before).map _
      List.Perm _ (es'.map Element.box) := h
      List.Perm _ ((es'.mergeSort before).map Element.box) :=
        ((List.mergeSort_perm es' before).map _).symm
  -- Both rows are what their tops pick from all elements.
  have hpicked := hflatten.filter fun box => ∃ a ∈ row, a.top = box.top
  rw [List.filter_map, List.filter_map] at hpicked
  have hown := filter_flatten_of_separate (separate_rows es) hrow hfinite
  have hown' := filter_flatten_of_separate (separate_rows es') hrow' hfinite'
  simp only [← hshared] at hown'
  rw [← hown, ← hown']
  exact hpicked

/-- Rows of the same boxes that hold the same stances hold the same bottoms. -/
theorem alike_of_stance (h : (es.map Element.box).Perm (es'.map Element.box))
    {row row' : List Element} (hrow : row ∈ rows es) (hrow' : row' ∈ rows es')
    (hstance : row.map stance = row'.map stance) : Alike row row' := by
  have htops : row.map Element.top = row'.map Element.top := by
    have hfst := congrArg (List.map fun p => p.1.1) hstance
    simpa [List.map_map, Function.comp_def, stance, place] using hfst
  refine ⟨htops, ?_⟩
  have hformed := (division_splitRows (es.mergeSort before)).formed row hrow
  rcases hformed.finite_or_alone with hfinite | ⟨e, rfl, hinfinite⟩
  · -- The boxes are the same in some order, and so are the bottoms.
    have hbottoms := (map_box_perm_of_tops h hrow hrow' htops hfinite).map Rect.bottom
    rwa [List.map_map, List.map_map] at hbottoms
  · -- Either row is one element, and its stance includes the bottom.
    rcases List.map_eq_singleton_iff.1 hstance.symm with ⟨e', rfl, hsame⟩
    have htop := top_eq_of_stance hsame
    have hfoot : foot e' = foot e := congrArg Prod.snd hsame
    simp only [foot, htop, hinfinite, Bool.false_eq_true, if_false, Option.some.injEq] at hfoot
    rw [List.map_singleton, List.map_singleton, hfoot]

theorem alike_rows (h : (es.map Element.box).Perm (es'.map Element.box))
    (hfeet : SameTies key foot es es') :
    List.Forall₂ Alike (rows es) (rows es') := by
  have hsorted : (es.mergeSort before).map stance = (es'.mergeSort before).map stance :=
    map_mergeSort_of_ties before_iff (map_key_perm h) ((sameTies_place h).prod hfeet)
  have hrows : (rows es).map (List.map stance) = (rows es').map (List.map stance) :=
    map_splitRows (fun _ _ => top_eq_of_stance) hsorted
  -- The rows correspond one by one; that two of them hold the same boxes takes all the others.
  rw [← List.forall₂_eq_eq_eq, List.forall₂_map_left_iff, List.forall₂_map_right_iff] at hrows
  rw [List.forall₂_iff_zip] at hrows ⊢
  refine ⟨hrows.1, fun hpair => ?_⟩
  have hmem := List.of_mem_zip hpair
  exact alike_of_stance h hmem.1 hmem.2 (hrows.2 hpair)

/-! ## Gaps between rows -/

/-- Where `-0` is the result, it was among the operands. -/
theorem negative_zero_mem {op : Float → Float → Float} (hop : ∀ a b, op a b = a ∨ op a b = b)
    {acc : Float} (hacc : acc ≠ -0.0) {xs : List Float}
    (h : Coordinate.parts (xs.foldl op acc) = .zero .negative) : -0.0 ∈ xs := by
  have hmem := Coordinate.foldl_mem hop acc xs
  rw [Coordinate.eq_negative_zero h] at hmem
  rcases List.mem_cons.1 hmem with heq | hxs
  · exact absurd heq.symm hacc
  · exact hxs

theorem highestTop_eq (row : List Element) :
    highestTop row = (row.map Element.top).foldl Coordinate.least Coordinate.highest := by
  rw [highestTop, List.foldl_map]

theorem lowestBottom_eq (row : List Element) :
    lowestBottom row = (row.map Element.bottom).foldl Coordinate.greatest Coordinate.lowest := by
  rw [lowestBottom, List.foldl_map]

/-- Above a row whose highest top is `-0` there is no bottom `-0`: it would belong to a top `-0`. -/
theorem parts_lowestBottom_ne {upper lower : List Element} (hsep : Separate upper lower)
    (htop : Coordinate.parts (highestTop lower) = .zero .negative) {row : List Element}
    (hrow : (row.map Element.bottom).Perm (upper.map Element.bottom)) :
    Coordinate.parts (lowestBottom row) ≠ .zero .negative := by
  intro hbottom
  rw [highestTop_eq] at htop
  rw [lowestBottom_eq] at hbottom
  have hlower : -0.0 ∈ lower.map Element.top :=
    negative_zero_mem Coordinate.least_eq_or (by decide +kernel) htop
  have hupper : -0.0 ∈ upper.map Element.bottom :=
    hrow.mem_iff.1 (negative_zero_mem Coordinate.greatest_eq_or (by decide +kernel) hbottom)
  rcases List.mem_map.1 hlower with ⟨b, hb, hbtop⟩
  rcases List.mem_map.1 hupper with ⟨a, ha, habottom⟩
  have hsum : Coordinate.parts (a.top + a.height) = .zero .negative := by
    have hadd : a.top + a.height = a.bottom := rfl
    rw [hadd, habottom]
    rfl
  have hatop : a.top = -0.0 :=
    Coordinate.eq_negative_zero (Coordinate.parts_of_add_eq_negative_zero hsum)
  refine hsep a ha b hb ?_ (hatop.trans hbtop.symm)
  rw [hatop]
  decide

theorem margin_congr {upper upper' lower lower' : List Element} (hsep : Separate upper lower)
    (hupper : Alike upper upper') (hlower : Alike lower lower') :
    highestTop lower - lowestBottom upper = highestTop lower' - lowestBottom upper' := by
  have hheight : highestTop lower' = highestTop lower := by
    rw [highestTop_eq, highestTop_eq, hlower.tops]
  have hlowest : Coordinate.lowest.isNaN = false := by decide +kernel
  have hgreatest := Coordinate.foldl_greatest_of_perm hlowest hupper.bottoms
  rw [← lowestBottom_eq, ← lowestBottom_eq] at hgreatest
  rw [hheight]
  rcases hgreatest with hsame | ⟨s, s', hzero, hzero'⟩
  · exact Coordinate.sub_congr hsame
  · -- The lowest bottoms may be different zeros, which shows only below a top `-0`.
    by_cases htop : Coordinate.parts (highestTop lower) = .zero .negative
    · have hne := parts_lowestBottom_ne hsep htop (.refl _)
      have hne' := parts_lowestBottom_ne hsep htop hupper.bottoms.symm
      rw [hzero] at hne
      rw [hzero'] at hne'
      cases s with
      | negative => exact absurd rfl hne
      | positive =>
          cases s' with
          | negative => exact absurd rfl hne'
          | positive => exact Coordinate.sub_congr (hzero.trans hzero'.symm)
    · exact Coordinate.sub_zero_congr hzero hzero' htop

theorem marginGaps_congr {rows rows' : List (List Element)} (hsep : rows.Pairwise Separate)
    (halike : List.Forall₂ Alike rows rows') : marginGaps rows = marginGaps rows' := by
  induction halike with
  | nil => rfl
  | cons hupper hrest ih =>
      cases hrest with
      | nil => rfl
      | cons hlower hlater =>
          rw [List.pairwise_cons] at hsep
          have hgap := margin_congr (hsep.1 _ List.mem_cons_self) hupper hlower
          exact congrArg₂ List.cons hgap (ih hsep.2)

/-- The gaps between rows do not depend on the order of delivery, apart from elements at one place
whose tops are not finite. -/
theorem marginGaps_of_perm (h : (es.map Element.box).Perm (es'.map Element.box))
    (hfeet : SameTies key foot es es') :
    marginGaps (rows es) = marginGaps (rows es') :=
  marginGaps_congr (separate_rows es) (alike_rows h hfeet)

end Grid
end LayoutAudit
