import LayoutAudit.Proofs.Constraint.Meaning
import LayoutAudit.Proofs.Coordinate.Order
import LayoutAudit.Proofs.Grid.Gaps

/-!
# Proofs.Constraint.Undefined — quantities that are not numbers

A relation compares quantities that it computes from the boxes of its elements.  Where edges lie
beyond all doubles such a quantity may be undefined.  A relation that asks whether a quantity is near
enough then finds it is not, and reports it.  Two relations ask whether a quantity is too far away
instead, which what is undefined never is.

* `Constraint.compared` — the quantities that a relation compares;
* `Constraint.tolerated?` — the tolerance of a relation that asks what is too far away;
* `Constraint.undefined_noticed_unless_tolerated` — which relations report what is undefined;
* `Constraint.undefined_overlooked` — what the others pass over.
-/

namespace LayoutAudit

open Coordinate

/-! ## Relations -/

namespace Relation

variable {a b e : Element}

theorem beside_of_isNaN (side : Side) (range : Range) (hpresent : ∀ e ∈ [a, b], e.present = true)
    (h : (side.gap a b).isNaN = true) : beside side range a b ≠ [] := by
  rw [beside, whenPresent_of_present hpresent, range.admits_of_isNaN h]
  exact List.cons_ne_nil _ _

theorem near_of_isNaN {sides : List (Side × Range)} (hpresent : ∀ e ∈ [a, b], e.present = true)
    (h : ∃ side ∈ sides, (side.1.gap a b).isNaN = true) : near sides a b ≠ [] := by
  rcases h with ⟨⟨side, range⟩, hside, h⟩
  -- An undefined gap is not negative, so that it is left to the range.
  have hon : nearOn side range a b ≠ [] := by
    rw [nearOn, if_neg (not_lt_of_isNaN h 0.0), range.admits_of_isNaN h]
    exact List.cons_ne_nil _ _
  rw [near, whenPresent_of_present hpresent]
  exact fun hnil => hon (List.flatMap_eq_nil_iff.1 hnil (side, range) hside)

theorem inside_of_isNaN (edges : Edges) (hpresent : ∀ e ∈ [a, b], e.present = true)
    (h : ∃ edge ∈ Edge.all, (edge.inset a b).isNaN = true) : inside edges a b ≠ [] := by
  rcases h with ⟨edge, hedge, h⟩
  have hat : insideAt edge (edges.test edge) a b ≠ [] := by
    rw [insideAt, (edges.test edge).admits_of_isNaN h]
    exact List.cons_ne_nil _ _
  rw [inside, whenPresent_of_present hpresent]
  exact fun hnil => hat (List.flatMap_eq_nil_iff.1 hnil edge hedge)

theorem aligned_of_isNaN (guide : Guide) (tolerance : Float)
    (hpresent : ∀ e ∈ [a, b], e.present = true)
    (h : (guide.position a - guide.position b).isNaN = true) : aligned guide tolerance a b ≠ [] := by
  simp only [aligned, whenPresent_of_present hpresent, not_le_of_isNaN (abs_isNaN h) tolerance]
  exact List.cons_ne_nil _ _

theorem same_of_isNaN (d : Dimension) (tolerance : Float)
    (hpresent : ∀ e ∈ [a, b], e.present = true)
    (h : (d.extent a - d.extent b).isNaN = true) : same d tolerance a b ≠ [] := by
  simp only [same, whenPresent_of_present hpresent, not_le_of_isNaN (abs_isNaN h) tolerance]
  exact List.cons_ne_nil _ _

theorem measures_of_isNaN (quantity : Quantity) (range : Range)
    (hpresent : ∀ e' ∈ [e], e'.present = true)
    (h : ∃ x ∈ (quantity.measure e).toList, x.isNaN = true) : measures quantity range e ≠ [] := by
  rcases h with ⟨x, hx, h⟩
  rw [measures, whenPresent_of_present hpresent, Option.mem_toList.1 hx]
  simp only [range.admits_of_isNaN h]
  exact List.cons_ne_nil _ _

theorem overlaps_of_isNaN (hpresent : ∀ e ∈ [a, b], e.present = true)
    (h : (a.box.sharedArea b.box).isNaN = true) : overlaps a b ≠ [] := by
  simp only [overlaps, whenPresent_of_present hpresent, not_gt_of_isNaN h 0.0]
  exact List.cons_ne_nil _ _

theorem apart_of_isNaN (hpresent : ∀ e ∈ [a, b], e.present = true)
    (h : (a.box.sharedArea b.box).isNaN = true) : apart a b ≠ [] := by
  simp only [apart, whenPresent_of_present hpresent, beq_of_isNaN h 0.0]
  exact List.cons_ne_nil _ _

theorem length_centered (axis : Axis) (tolerance : Float)
    (hpresent : ∀ e ∈ [a, b], e.present = true) :
    (centered axis tolerance a b).length =
      (axis.middles.map fun middle => middle.2.position a - middle.2.position b).countP
        fun x => tolerance < x.abs := by
  rw [centered, whenPresent_of_present hpresent]
  induction axis.middles with
  | nil => rfl
  | cons middle rest ih =>
      rw [List.flatMap_cons, List.length_append, ih, List.map_cons, List.countP_cons, Nat.add_comm]
      simp [centeredAlong, length_require]

end Relation

/-! ## Constraints -/

namespace Constraint

variable (find : ElementRef → Element) (findAll : GroupRef → Group) (around : Surroundings)

def compared : Constraint → List Float
  | beside side a b _ => [side.gap (a.denotes find around) (b.denotes find around)]
  | near a b sides => sides.map fun side => side.1.gap (a.denotes find around) (b.denotes find around)
  | inside a b _ => Edge.all.map fun edge => edge.inset (a.denotes find around) (b.denotes find around)
  | aligned a b guide _ =>
      [guide.position (a.denotes find around) - guide.position (b.denotes find around)]
  | centered a b axis _ => axis.middles.map fun middle =>
      middle.2.position (a.denotes find around) - middle.2.position (b.denotes find around)
  | measures a quantity _ => (quantity.measure (a.denotes find around)).toList
  | same a b d _ => [d.extent (a.denotes find around) - d.extent (b.denotes find around)]
  | overlaps a b => [(a.denotes find around).box.sharedArea (b.denotes find around).box]
  | apart a b => [(a.denotes find around).box.sharedArea (b.denotes find around).box]
  | tabular g table =>
      let rows := Grid.rows (g.denotes findAll).items
      (if table.horizontal.isSome then rows.flatMap Grid.columnGaps else []) ++
        if table.vertical.isSome then Grid.marginGaps rows else []
  | evenlySpaced g course _ =>
      match course.gaps (g.denotes findAll).items with
      | [] => []
      | baseline :: rest => rest.map fun gap => gap - baseline
  | _ => []

/-- The tolerance beyond which a quantity is too far away.  The other relations with a tolerance ask
which quantities are near enough. -/
def tolerated? : Constraint → Option Float
  | centered _ _ _ tolerance => some tolerance
  | evenlySpaced _ _ tolerance => some tolerance
  | _ => none

/-- Of operands that are there, a quantity that is undefined is reported. -/
def NoticesUndefined (c : Constraint) : Prop :=
  ∀ (find : ElementRef → Element) (findAll : GroupRef → Group) (around : Surroundings),
    (∀ a ∈ c.measured?.getD [], (a.denotes find around).present = true) →
    (∃ x ∈ c.compared find findAll around, x.isNaN = true) →
    (c.check around).answer find findAll ≠ []

theorem tabular_noticesUndefined (g : GroupOperand) (table : Table) :
    (tabular g table).NoticesUndefined := by
  rintro find findAll around - ⟨x, hx, h⟩
  have hreported : Relation.tabular table (g.denotes findAll) ≠ [] := by
    rcases List.mem_append.1 hx with hx | hx
    · cases hmargin : table.horizontal with
      | none => simp [hmargin] at hx
      | some margin =>
          have hx' : x ∈ (Grid.rows (g.denotes findAll).items).flatMap Grid.columnGaps := by
            simpa [hmargin] using hx
          rcases List.mem_flatMap.1 hx' with ⟨row, hrow, hgap⟩
          exact Relation.tabular_ne_nil_of_column hmargin hrow hgap (margin.admits_of_isNaN h)
    · cases hmargin : table.vertical with
      | none => simp [hmargin] at hx
      | some margin =>
          have hx' : x ∈ Grid.marginGaps (Grid.rows (g.denotes findAll).items) := by
            simpa [hmargin] using hx
          exact Relation.tabular_ne_nil_of_margin hmargin hx' (margin.admits_of_isNaN h)
  simpa [check] using hreported

/-- A relation that asks which quantities are near enough, or lie in a range, reports what is
undefined. -/
theorem noticesUndefined_of_untolerated {c : Constraint} (hc : c.tolerated? = none) :
    c.NoticesUndefined := by
  cases c with
  | tabular g table => exact tabular_noticesUndefined g table
  | beside side a b range =>
      intro find findAll around hpresent hx
      have h := Relation.beside_of_isNaN side range (a := a.denotes find around)
        (b := b.denotes find around) (by simpa [measured?] using hpresent)
        (by simpa [compared] using hx)
      simpa [check] using h
  | near a b sides =>
      intro find findAll around hpresent hx
      have hx' : ∃ side ∈ sides,
          (side.1.gap (a.denotes find around) (b.denotes find around)).isNaN = true := by
        rcases hx with ⟨x, hx, h⟩
        rcases List.mem_map.1 hx with ⟨side, hside, rfl⟩
        exact ⟨side, hside, h⟩
      -- A relation without sides compares nothing.
      have hsome : sides.isEmpty = false := by
        rcases hx' with ⟨side, hside, -⟩
        exact List.isEmpty_eq_false_iff.2 (List.ne_nil_of_mem hside)
      have h := Relation.near_of_isNaN (by simpa [measured?, hsome] using hpresent) hx'
      simpa [check, hsome] using h
  | inside a b edges =>
      intro find findAll around hpresent hx
      have hx' : ∃ edge ∈ Edge.all,
          (edge.inset (a.denotes find around) (b.denotes find around)).isNaN = true := by
        rcases hx with ⟨x, hx, h⟩
        rcases List.mem_map.1 hx with ⟨edge, hedge, rfl⟩
        exact ⟨edge, hedge, h⟩
      have h := Relation.inside_of_isNaN edges (by simpa [measured?] using hpresent) hx'
      simpa [check] using h
  | aligned a b guide tolerance =>
      intro find findAll around hpresent hx
      have h := Relation.aligned_of_isNaN guide tolerance (a := a.denotes find around)
        (b := b.denotes find around) (by simpa [measured?] using hpresent)
        (by simpa [compared] using hx)
      simpa [check] using h
  | measures a quantity range =>
      intro find findAll around hpresent hx
      have h := Relation.measures_of_isNaN quantity range (e := a.denotes find around)
        (by simpa [measured?] using hpresent) hx
      simpa [check] using h
  | same a b d tolerance =>
      intro find findAll around hpresent hx
      have h := Relation.same_of_isNaN d tolerance (a := a.denotes find around)
        (b := b.denotes find around) (by simpa [measured?] using hpresent)
        (by simpa [compared] using hx)
      simpa [check] using h
  | overlaps a b =>
      intro find findAll around hpresent hx
      have h := Relation.overlaps_of_isNaN (a := a.denotes find around)
        (b := b.denotes find around) (by simpa [measured?] using hpresent)
        (by simpa [compared] using hx)
      simpa [check] using h
  | apart a b =>
      intro find findAll around hpresent hx
      have h := Relation.apart_of_isNaN (a := a.denotes find around)
        (b := b.denotes find around) (by simpa [measured?] using hpresent)
        (by simpa [compared] using hx)
      simpa [check] using h
  | centered a b axis tolerance => cases hc
  | evenlySpaced g course tolerance => cases hc
  | _ =>
      -- Nothing is compared, so that nothing is undefined.
      rintro find findAll around - ⟨x, hx, -⟩
      cases hx

/-- What is undefined exceeds no tolerance. -/
theorem exceeds_iff (tolerance x : Float) :
    decide (tolerance < x.abs) = (!x.isNaN && decide (tolerance < x.abs)) := by
  cases hx : x.isNaN with
  | false => rfl
  | true => simp [not_gt_of_isNaN (abs_isNaN hx) tolerance]

/-- A relation that asks which quantities are too far away reports those that are, and passes over
what is undefined. -/
theorem length_check_of_tolerated {c : Constraint} {tolerance : Float}
    (hc : c.tolerated? = some tolerance)
    (hpresent : ∀ a ∈ c.measured?.getD [], (a.denotes find around).present = true) :
    ((c.check around).answer find findAll).length =
      (c.compared find findAll around).countP fun x => !x.isNaN && tolerance < x.abs := by
  have hcount : (c.compared find findAll around).countP (fun x => !x.isNaN && tolerance < x.abs) =
      (c.compared find findAll around).countP fun x => tolerance < x.abs :=
    List.countP_congr fun x _ => by rw [← exceeds_iff tolerance x]
  rw [hcount]
  -- There are two such relations, and each reports once for each quantity too far away.
  cases c with
  | centered a b axis t =>
      cases hc
      have h := Relation.length_centered (a := a.denotes find around) (b := b.denotes find around)
        axis tolerance (by simpa [measured?] using hpresent)
      simpa [check, compared] using h
  | evenlySpaced g course t =>
      cases hc
      have h := Relation.length_evenlySpaced course tolerance (g.denotes findAll)
      have hcheck : ((evenlySpaced g course tolerance).check around).answer find findAll =
          Relation.evenlySpaced course tolerance (g.denotes findAll) := by simp [check]
      rw [hcheck, h, compared]
      cases course.gaps (g.denotes findAll).items with
      | nil => rfl
      | cons baseline rest => rw [List.countP_map]; rfl
  | _ => cases hc

/-- Of what is undefined, all relations that compare quantities report something but two.  Those two
report as many violations as there are quantities beyond their tolerance, which what is undefined
is not. -/
theorem undefined_noticed_unless_tolerated (c : Constraint) :
    (c.tolerated? = none → c.NoticesUndefined) ∧
    ∀ (tolerance : Float) (find : ElementRef → Element) (findAll : GroupRef → Group)
      (around : Surroundings), c.tolerated? = some tolerance →
      (∀ a ∈ c.measured?.getD [], (a.denotes find around).present = true) →
      ((c.check around).answer find findAll).length =
        (c.compared find findAll around).countP fun x => !x.isNaN && tolerance < x.abs :=
  ⟨noticesUndefined_of_untolerated,
    fun _ find findAll around => length_check_of_tolerated find findAll around⟩

/-- An element whose box is given by finite numbers, while its right edge and its middle lie beyond
all doubles. -/
def remote : Element := Element.shownAt "a" ⟨1.7e308, 0.0, 1.7e308, 10.0⟩

/-- Its right edge is not aligned with itself, and it is centered in itself. -/
theorem undefined_noticed_of_remote :
    let aligned : Constraint := .aligned (.element remote) (.element remote) .right 1.0
    let centered : Constraint := .centered (.element remote) (.element remote) .horizontal 1.0
    (aligned.check []).answer Inhabited.default Inhabited.default ≠ [] ∧
      ((centered.check []).answer Inhabited.default Inhabited.default).length = 0 := by
  intro aligned centered
  have hpresent : ∀ a ∈ [Operand.element remote, .element remote],
      (a.denotes Inhabited.default []).present = true := by
    intro a ha
    have hremote : a = .element remote := by simpa using ha
    rw [hremote]
    rfl
  constructor
  · refine (undefined_noticed_unless_tolerated aligned).1 rfl _ _ [] hpresent ?_
    exact ⟨_, List.mem_cons_self, by decide +kernel⟩
  · -- The only offset is undefined, so that none is beyond the tolerance.
    rw [(undefined_noticed_unless_tolerated centered).2 1.0 _ _ [] rfl hpresent]
    decide +kernel

theorem gaps_of_remote :
    Course.across.gaps [remote, remote, remote] =
      [Course.across.gap remote remote, Course.across.gap remote remote] := by
  have hsorted : [remote, remote, remote].mergeSort Course.across.before =
      [remote, remote, remote] :=
    List.mergeSort_of_pairwise (by simp [Course.before, Grid.leftOf])
  rw [Course.gaps, hsorted]
  rfl

/-- So not everything that is undefined is reported: neither an offset between middles is, nor a gap
that cannot be compared with the first one. -/
theorem undefined_overlooked :
    ¬ (∀ c : Constraint, c.NoticesUndefined) ∧
    ¬ (∀ g course tolerance, (evenlySpaced g course tolerance).NoticesUndefined) := by
  constructor
  · intro h
    let c : Constraint := .centered (.element remote) (.element remote) .horizontal 1.0
    have hpresent : ∀ a ∈ c.measured?.getD [], (a.denotes Inhabited.default []).present = true := by
      simp [c, measured?, Operand.denotes, remote, Element.shownAt]
    refine h c Inhabited.default Inhabited.default [] hpresent ?_ ?_
    · exact ⟨_, List.mem_cons_self, by decide +kernel⟩
    · apply List.eq_nil_of_length_eq_zero
      rw [length_check_of_tolerated _ _ _ rfl hpresent]
      decide +kernel
  · intro h
    let c : Constraint := .evenlySpaced (.group ⟨"a", [remote, remote, remote]⟩) .across 1.0
    have hpresent : ∀ a ∈ c.measured?.getD [], (a.denotes Inhabited.default []).present = true := by
      simp [c, measured?]
    have hcompared : c.compared Inhabited.default Inhabited.default [] =
        [Course.across.gap remote remote - Course.across.gap remote remote] := by
      simp only [c, compared, GroupOperand.denotes, gaps_of_remote, List.map_cons, List.map_nil]
    refine h _ _ _ Inhabited.default Inhabited.default [] hpresent ?_ ?_
    · rw [hcompared]
      exact ⟨_, List.mem_cons_self, by decide +kernel⟩
    · apply List.eq_nil_of_length_eq_zero
      rw [length_check_of_tolerated _ _ _ rfl hpresent, hcompared]
      decide +kernel

end Constraint
end LayoutAudit
