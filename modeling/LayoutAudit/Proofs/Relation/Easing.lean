import LayoutAudit.Constraint
import Mathlib.Data.List.Forall2

/-!
# Proofs.Relation.Easing — relations whose ranges have become looser

A range is looser than another if it accepts all numbers that the other accepts.  A relation with a
looser range finds nothing wrong where the relation with the other range finds nothing wrong.  Under
a denial it is the other way around, and under two of them it is as it was: this is what a polarity
keeps track of.

* `Polarity`, `Polarity.Entails` — the direction in which one statement follows from another;
* `Range.Looser`, `Range.Eased` — ranges that accept more, or less where they are denied;
* `Relation.Milder` — a finding is empty if another one is;
* `Relation.milder_beside` and the like — each relation with a range follows the range.
-/

namespace LayoutAudit

/-- Does a statement stand under an even number of denials, or under an odd one? -/
inductive Polarity where
  | asserted
  | denied
  deriving DecidableEq

namespace Polarity

/-- The polarity of what is denied. -/
def flip : Polarity → Polarity
  | asserted => denied
  | denied => asserted

/-- The second statement follows from the first, or the first from the second if they are denied. -/
def Entails : Polarity → Prop → Prop → Prop
  | asserted, P, Q => P → Q
  | denied, P, Q => Q → P

variable {p : Polarity} {P P' Q Q' : Prop}

theorem Entails.refl (p : Polarity) (P : Prop) : p.Entails P P := by
  cases p
  · exact id
  · exact id

theorem Entails.and (hleft : p.Entails P P') (hright : p.Entails Q Q') :
    p.Entails (P ∧ Q) (P' ∧ Q') := by
  cases p
  · exact And.imp hleft hright
  · exact And.imp hleft hright

theorem Entails.not (h : p.flip.Entails P P') : p.Entails (¬ P) (¬ P') := by
  cases p
  · exact mt h
  · exact mt h

theorem Entails.all {α : Type} {as : List α} {P P' : α → Prop}
    (h : ∀ a ∈ as, p.Entails (P a) (P' a)) : p.Entails (∀ a ∈ as, P a) (∀ a ∈ as, P' a) := by
  cases p
  · exact fun hall a ha => h a ha (hall a ha)
  · exact fun hall a ha => h a ha (hall a ha)

theorem Entails.any {α : Type} {as : List α} {P P' : α → Prop}
    (h : ∀ a ∈ as, p.Entails (P a) (P' a)) : p.Entails (∃ a ∈ as, P a) (∃ a ∈ as, P' a) := by
  cases p
  · rintro ⟨a, ha, hsome⟩
    exact ⟨a, ha, h a ha hsome⟩
  · rintro ⟨a, ha, hsome⟩
    exact ⟨a, ha, h a ha hsome⟩

end Polarity

/-! ## Ranges -/

/-- The first range accepts every number that the second one accepts. -/
def Range.Looser (r' r : Range) : Prop := ∀ x, r.admits x = true → r'.admits x = true

/-- In place of the first range stands a looser one, or where it is denied one that it is looser
than. -/
def Range.Eased : Polarity → Range → Range → Prop
  | .asserted, r, r' => r'.Looser r
  | .denied, r, r' => r.Looser r'

/-- The tests of one containment take the place of those of another. -/
def Edges.Eased (p : Polarity) (edges edges' : Edges) : Prop :=
  ∀ edge, (edges.test edge).Eased p (edges'.test edge)

/-- The margins of one table take the place of those of another, for as many columns. -/
structure Table.Eased (p : Polarity) (table table' : Table) : Prop where
  columns : table'.columns = table.columns
  horizontal : Option.Rel (Range.Eased p) table.horizontal table'.horizontal
  vertical : Option.Rel (Range.Eased p) table.vertical table'.vertical

variable {p : Polarity} {r r' : Range}

theorem Range.Eased.entails (hr : r.Eased p r') (x : Float) :
    p.Entails (r.admits x = true) (r'.admits x = true) := by
  cases p
  · exact hr x
  · exact hr x

/-- Dropping the upper bound makes a range looser. -/
theorem Range.atLeast_looser_between (min max : Float) :
    (Range.atLeast min).Looser (.between min max) := by
  intro x hx
  simp only [admits, Bool.and_eq_true] at hx ⊢
  exact ⟨hx.1, hx.2.1⟩

namespace Relation

/-! ## Findings -/

/-- If the first finding is empty then so is the second, and where they are denied the other way
around. -/
def Milder (p : Polarity) (found found' : List Violation) : Prop :=
  p.Entails (found = []) (found' = [])

variable {found found' more more' : List Violation}

theorem Milder.refl (p : Polarity) (found : List Violation) : Milder p found found :=
  Polarity.Entails.refl p _

theorem Milder.append (h : Milder p found found') (hmore : Milder p more more') :
    Milder p (found ++ more) (found' ++ more') := by
  have hboth := Polarity.Entails.and h hmore
  simpa only [Milder, List.append_eq_nil_iff] using hboth

theorem Milder.flatMap {α : Type} {f f' : α → List Violation} {as : List α}
    (h : ∀ a ∈ as, Milder p (f a) (f' a)) : Milder p (as.flatMap f) (as.flatMap f') := by
  induction as with
  | nil => exact Milder.refl p []
  | cons a rest ih =>
      have hrest := ih fun b hb => h b (List.mem_cons_of_mem a hb)
      exact (h a List.mem_cons_self).append hrest

/-- The gate is the same for both, and behind it stands the one finding or the other. -/
theorem Milder.whenPresent {name : String} {operands : List Element} (h : Milder p found found') :
    Milder p (whenPresent name operands found) (whenPresent name operands found') := by
  unfold Relation.whenPresent
  cases missing operands with
  | nil => exact h
  | cons selector rest => exact Milder.refl p _

theorem Milder.require {holds holds' : Bool} {v v' : Violation}
    (h : p.Entails (holds = true) (holds' = true)) :
    Milder p (require holds v) (require holds' v') := by
  have hnil (b : Bool) (w : Violation) : Relation.require b w = [] ↔ b = true := by
    cases b <;> simp [Relation.require]
  simpa only [Milder, hnil] using h

/-! ## The relations -/

variable {a b e : Element} {g : Group}

theorem milder_beside (side : Side) (hr : r.Eased p r') :
    Milder p (beside side r a b) (beside side r' a b) := by
  apply Milder.whenPresent
  apply Milder.require
  exact hr.entails (side.gap a b)

/-- An overlap is wrong whatever the range. -/
theorem milder_nearOn (side : Side) (hr : r.Eased p r') :
    Milder p (nearOn side r a b) (nearOn side r' a b) := by
  by_cases hoverlap : side.gap a b < 0.0
  · simp only [nearOn, hoverlap, if_true]
    exact Milder.refl p _
  · simp only [nearOn, hoverlap, if_false]
    exact Milder.require (hr.entails (side.gap a b))

theorem milder_near {sides sides' : List (Side × Range)}
    (hsides : List.Forall₂ (fun s s' => s'.1 = s.1 ∧ s.2.Eased p s'.2) sides sides') :
    Milder p (near sides a b) (near sides' a b) := by
  apply Milder.whenPresent
  -- Side by side: the two lists name the same sides in the same order.
  induction hsides with
  | nil => exact Milder.refl p []
  | @cons s s' rest rest' hs hrest ih =>
      rcases s with ⟨side, range⟩
      rcases s' with ⟨side', range'⟩
      rcases hs with ⟨hside, hrange⟩
      cases hside
      exact (milder_nearOn side hrange).append ih

theorem milder_inside {edges edges' : Edges} (hedges : edges.Eased p edges') :
    Milder p (inside edges a b) (inside edges' a b) := by
  apply Milder.whenPresent
  refine Milder.flatMap fun edge _ => ?_
  exact Milder.require ((hedges edge).entails (edge.inset a b))

theorem milder_measures (quantity : Quantity) (hr : r.Eased p r') :
    Milder p (measures quantity r e) (measures quantity r' e) := by
  apply Milder.whenPresent
  -- What cannot be measured is wrong whatever the range.
  cases quantity.measure e with
  | none => exact Milder.refl p _
  | some x => exact Milder.require (hr.entails x)

theorem milder_lineCount (hr : r.Eased p r') : Milder p (lineCount r e) (lineCount r' e) := by
  apply Milder.whenPresent
  apply Milder.require
  exact hr.entails _

theorem milder_counts (tally : Tally) (hr : r.Eased p r') :
    Milder p (counts tally r g) (counts tally r' g) := by
  apply Milder.require
  exact hr.entails _

theorem milder_withinRow {selector : String} {table table' : Table} {i : Nat} {row : List Element}
    (htable : table.Eased p table') :
    Milder p (withinRow selector table i row) (withinRow selector table' i row) := by
  rcases table with ⟨columns, horizontal, vertical⟩
  rcases table' with ⟨columns', horizontal', vertical'⟩
  obtain rfl : columns' = columns := htable.columns
  refine (Milder.refl p _).append ?_
  cases htable.horizontal with
  | none => exact Milder.refl p []
  | some hmargin => exact Milder.flatMap fun gap _ => Milder.require (hmargin.entails _)

theorem milder_allBetweenRows {selector : String} {table table' : Table}
    {rows : List (List Element)} (htable : table.Eased p table') :
    Milder p (allBetweenRows selector table rows) (allBetweenRows selector table' rows) := by
  rcases table with ⟨columns, horizontal, vertical⟩
  rcases table' with ⟨columns', horizontal', vertical'⟩
  cases htable.vertical with
  | none => exact Milder.refl p []
  | some hmargin => exact Milder.flatMap fun pair _ => Milder.require (hmargin.entails _)

/-- How the elements are split into rows does not depend on the margins. -/
theorem milder_tabular {table table' : Table} (htable : table.Eased p table') :
    Milder p (tabular table g) (tabular table' g) := by
  refine Milder.append ?_ (milder_allBetweenRows htable)
  exact Milder.flatMap fun row _ => milder_withinRow htable

end Relation
end LayoutAudit
