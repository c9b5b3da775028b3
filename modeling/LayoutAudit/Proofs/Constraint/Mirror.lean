import LayoutAudit.Proofs.Constraint.Meaning
import LayoutAudit.Proofs.Relation.Mirror
import LayoutAudit.Proofs.Relation.Presence

/-!
# Proofs.Constraint.Mirror — constraints read along the other axis

The mirror image of a constraint says along one axis what the constraint says along the other.  On
transposed elements it finds what the constraint finds on the elements themselves.  Ratios, tables
and constraints of one's own have no mirror image.

* `Constraint.mirror`, `Constraint.Mirrorable` — mirror images, and what has one;
* `Constraint.check_mirror` — a constraint and its mirror image find the same;
* `Constraint.beside_opposite` — so do a constraint on a gap and the one from its other side;
* `Constraint.mirror_symmetry` — both, for whatever is looked up.
-/

namespace LayoutAudit

open Violation (MirrorAll MirrorEvidence)

/-! ## Operands -/

def Operand.transposed : Operand → Operand
  | element e => element e.transposed
  | declared ref => declared ref
  | enclosing level => enclosing level

def GroupOperand.transposed : GroupOperand → GroupOperand
  | group g => group g.transposed
  | declared ref => declared ref

section Operands

variable (find : ElementRef → Element) (findAll : GroupRef → Group)

theorem Operand.denotes_transposed (around : Surroundings) (a : Operand) :
    a.transposed.denotes (fun ref => (find ref).transposed) (around.map Element.transposed) =
      (a.denotes find around).transposed := by
  cases a with
  | element e => rfl
  | declared ref => rfl
  | enclosing level =>
      change (around.map Element.transposed)[level]?.getD .blank =
        (around[level]?.getD .blank).transposed
      rw [List.getElem?_map]
      cases around[level]? with
      | none => rfl
      | some e => rfl

theorem GroupOperand.denotes_transposed (g : GroupOperand) :
    g.transposed.denotes (fun ref => (findAll ref).transposed) =
      (g.denotes findAll).transposed := by
  cases g <;> rfl

end Operands

/-! ## Mirror images -/

namespace Constraint

mutual
/-- The constraint along the other axis.  A body is handed a transposed element. -/
def mirror : Constraint → Constraint
  | beside side a b range => beside side.mirror a.transposed b.transposed range
  | near a b sides =>
      near a.transposed b.transposed (sides.map fun (side, range) => (side.mirror, range))
  | inside a b edges => inside a.transposed b.transposed edges.mirror
  | aligned a b guide tolerance => aligned a.transposed b.transposed guide.mirror tolerance
  | centered a b axis tolerance => centered a.transposed b.transposed axis.mirror tolerance
  | measures a quantity range => measures a.transposed quantity.mirror range
  | same a b dimension tolerance => same a.transposed b.transposed dimension.mirror tolerance
  | overlaps a b => overlaps a.transposed b.transposed
  | apart a b => apart a.transposed b.transposed
  | flagged a flag => flagged a.transposed flag
  | reads a wording => reads a.transposed wording
  | lineCount a range => lineCount a.transposed range
  | counts g tally range => counts g.transposed tally range
  | tabular g table => tabular g.transposed table
  | evenlySpaced g course tolerance => evenlySpaced g.transposed course.mirror tolerance
  | own name find => own name find
  | everyOf g body => everyOf g.transposed fun e => mirrorEach (body e.transposed)
  | someOf g body => someOf g.transposed fun e => mirrorEach (body e.transposed)
  | noneOf g body => noneOf g.transposed fun e => mirrorEach (body e.transposed)

def mirrorEach : List Constraint → List Constraint
  | [] => []
  | c :: rest => mirror c :: mirrorEach rest
end

mutual
/-- No ratio, no table and no constraint of one's own, at any depth. -/
def Mirrorable : Constraint → Prop
  | measures _ quantity _ => quantity ≠ .aspectRatio
  | tabular _ _ => False
  | own _ _ => False
  | everyOf _ body => ∀ e, AllMirrorable (body e)
  | someOf _ body => ∀ e, AllMirrorable (body e)
  | noneOf _ body => ∀ e, AllMirrorable (body e)
  | _ => True

def AllMirrorable : List Constraint → Prop
  | [] => True
  | c :: rest => Mirrorable c ∧ AllMirrorable rest
end

/-! ## Group by group -/

section Groups

variable {find find' : ElementRef → Element} {findAll findAll' : GroupRef → Group}
  {f g : Element → Query (List Violation)} (es : List Element)

theorem numbered_mirror
    (h : ∀ e, MirrorAll ((f e).answer find findAll) ((g e.transposed).answer find' findAll')) :
    MirrorAll (numbered (es.map fun e => (f e).answer find findAll))
      (numbered ((es.map Element.transposed).map fun e => (g e).answer find' findAll')) := by
  -- The elements have the same numbers on either side, wherever the count begins.
  have hfrom (start : Nat) : MirrorAll
      (((es.map fun e => (f e).answer find findAll).zipIdx start).flatMap fun m =>
        m.1.map (Violation.under (Relation.indexed "for_all" m.2)))
      ((((es.map Element.transposed).map fun e => (g e).answer find' findAll').zipIdx
        start).flatMap fun m => m.1.map (Violation.under (Relation.indexed "for_all" m.2))) := by
    induction es generalizing start with
    | nil => exact .nil
    | cons e rest ih => exact ((h e).under start).append (ih (start + 1))
  exact hfrom 0

/-- A search along the other axis stops at the same element, with mirror images of what it passed. -/
theorem untilClean_mirror
    (h : ∀ e, MirrorAll ((f e).answer find findAll) ((g e.transposed).answer find' findAll')) :
    MirrorEvidence ((untilClean f es).answer find findAll).1
        ((untilClean g (es.map Element.transposed)).answer find' findAll').1 ∧
      ((untilClean g (es.map Element.transposed)).answer find' findAll').2 =
        ((untilClean f es).answer find findAll).2.map Element.transposed := by
  induction es with
  | nil => exact ⟨.nil, rfl⟩
  | cons e rest ih =>
      by_cases hclean : (f e).answer find findAll = []
      · have hclean' := (h e).nil_iff.2 hclean
        simp only [List.map_cons, untilClean, Query.answer_bind, hclean, hclean', List.isEmpty_nil,
          if_true, Query.answer_pure, Option.map_some, and_true]
        exact .nil
      · have hclean' := mt (h e).nil_iff.1 hclean
        simp only [List.map_cons, untilClean, Query.answer_bind, List.isEmpty_iff, hclean, hclean',
          if_false, Query.answer_pure]
        exact ⟨.cons e (h e) ih.1, ih.2⟩

end Groups

section Check

variable (find : ElementRef → Element) (findAll : GroupRef → Group)

/-- What a constraint and its mirror image find. -/
def FindsMirrored (around : Surroundings) (c : Constraint) : Prop :=
  MirrorAll ((c.check around).answer find findAll)
    ((c.mirror.check (around.map Element.transposed)).answer
      (fun ref => (find ref).transposed) (fun ref => (findAll ref).transposed))

/-- What constraints and their mirror images find. -/
def FindMirrored (around : Surroundings) (cs : List Constraint) : Prop :=
  MirrorAll ((checkAll around cs).answer find findAll)
    ((checkAll (around.map Element.transposed) (mirrorEach cs)).answer
      (fun ref => (find ref).transposed) (fun ref => (findAll ref).transposed))

section Quantifiers

variable {find findAll} {around : Surroundings} {body : Element → List Constraint}

/-- On the other side a body is handed the transposed element, and makes the same of it. -/
theorem FindMirrored.made (h : ∀ e, FindMirrored find findAll (e :: around) (body e)) (e : Element) :
    MirrorAll ((checkAll (e :: around) (body e)).answer find findAll)
      ((checkAll (e.transposed :: around.map Element.transposed)
          (mirrorEach (body e.transposed.transposed))).answer
        (fun ref => (find ref).transposed) (fun ref => (findAll ref).transposed)) := by
  rw [Element.transposed_transposed]
  exact h e

theorem everyOf_mirror (g : GroupOperand)
    (h : ∀ e, FindMirrored find findAll (e :: around) (body e)) :
    FindsMirrored find findAll around (everyOf g body) := by
  simp only [FindsMirrored, mirror, check, Query.answer_bind, Query.answer_pure,
    Query.answer_traverse, answer_resolve, GroupOperand.denotes_transposed]
  exact numbered_mirror _ (f := fun e => checkAll (e :: around) (body e))
    (g := fun e => checkAll (e :: around.map Element.transposed) (mirrorEach (body e.transposed)))
    (FindMirrored.made h)

/-- Searching the group on either side, with what is passed and where the search ends. -/
theorem search_mirror (h : ∀ e, FindMirrored find findAll (e :: around) (body e))
    (g : Group) :
    ∃ found found' clean, MirrorEvidence found found' ∧
      (untilClean (fun e => checkAll (e :: around) (body e)) g.items).answer find findAll =
        (found, clean) ∧
      (untilClean (fun e => checkAll (e :: around.map Element.transposed)
          (mirrorEach (body e.transposed))) g.transposed.items).answer
        (fun ref => (find ref).transposed) (fun ref => (findAll ref).transposed) =
        (found', clean.map Element.transposed) := by
  have hsearch := untilClean_mirror g.items
    (f := fun e => checkAll (e :: around) (body e))
    (g := fun e => checkAll (e :: around.map Element.transposed) (mirrorEach (body e.transposed)))
    (FindMirrored.made h)
  exact ⟨_, _, _, hsearch.1, rfl, Prod.ext rfl hsearch.2⟩

theorem someOf_mirror (g : GroupOperand)
    (h : ∀ e, FindMirrored find findAll (e :: around) (body e)) :
    FindsMirrored find findAll around (someOf g body) := by
  rcases search_mirror h (g.denotes findAll) with ⟨found, found', clean, hfound, hleft, hright⟩
  simp only [FindsMirrored, mirror, check, Query.answer_bind, Query.answer_pure, answer_resolve,
    GroupOperand.denotes_transposed, hleft, hright]
  cases clean with
  | some e => exact .nil
  | none => exact .cons (.nowhere _ hfound) .nil

theorem noneOf_mirror (g : GroupOperand)
    (h : ∀ e, FindMirrored find findAll (e :: around) (body e)) :
    FindsMirrored find findAll around (noneOf g body) := by
  rcases search_mirror h (g.denotes findAll) with ⟨found, found', clean, hfound, hleft, hright⟩
  simp only [FindsMirrored, mirror, check, Query.answer_bind, Query.answer_pure, answer_resolve,
    GroupOperand.denotes_transposed, hleft, hright, ← hfound.length_eq]
  cases clean with
  | some e => exact .cons (.reported (.satisfied found.length) fun _ => rfl) .nil
  | none => exact .nil

end Quantifiers

/-- Without sides nothing is looked up on either side. -/
theorem near_mirror (around : Surroundings) (a b : Operand) (sides : List (Side × Range)) :
    FindsMirrored find findAll around (near a b sides) := by
  cases hnone : sides.isEmpty with
  | true =>
      simp only [FindsMirrored, mirror, check, List.isEmpty_map, hnone, if_true, Query.answer_pure]
      exact .cons (.reported (.undirected (by decide)) fun _ => rfl) .nil
  | false =>
      simp only [FindsMirrored, mirror, check, List.isEmpty_map, hnone, Bool.false_eq_true, if_false,
        Query.answer_bind, Query.answer_pure, Operand.answer_resolve, Operand.denotes_transposed]
      exact Relation.near_mirror _ _ sides

mutual
/-- By recursion on the constraint, for all surroundings, since a body sees one element more. -/
theorem check_mirror (around : Surroundings) (c : Constraint) (hc : c.Mirrorable) :
    FindsMirrored find findAll around c := by
  cases c
  case everyOf g body =>
      exact everyOf_mirror g fun e => checkAll_mirror (e :: around) (body e) (hc e)
  case someOf g body =>
      exact someOf_mirror g fun e => checkAll_mirror (e :: around) (body e) (hc e)
  case noneOf g body =>
      exact noneOf_mirror g fun e => checkAll_mirror (e :: around) (body e) (hc e)
  case own name lookup => exact hc.elim
  case tabular g table => exact hc.elim
  case near a b sides => exact near_mirror find findAll around a b sides
  -- Of the other relations each is known by what its operands stand for.
  all_goals
    simp only [FindsMirrored, mirror, check, Query.answer_bind, Query.answer_pure,
      Operand.answer_resolve, Operand.denotes_transposed, answer_resolve,
      GroupOperand.denotes_transposed]
  case beside side a b range => exact Relation.beside_mirror _ _ side range
  case inside a b edges => exact Relation.inside_mirror _ _ edges
  case aligned a b guide tolerance => exact Relation.aligned_mirror _ _ guide tolerance
  case centered a b axis tolerance => exact Relation.centered_mirror _ _ axis tolerance
  case measures a quantity range => exact Relation.measures_mirror _ hc range
  case same a b dimension tolerance => exact Relation.same_mirror _ _ dimension tolerance
  case overlaps a b => exact Relation.overlaps_mirror _ _
  case apart a b => exact Relation.apart_mirror _ _
  case flagged a flag => exact Relation.flagged_mirror _ flag
  case reads a wording => exact Relation.reads_mirror _ wording
  case lineCount a range => exact Relation.lineCount_mirror _ range
  case counts g tally range => exact Relation.counts_mirror tally range _
  case evenlySpaced g course tolerance => exact Relation.evenlySpaced_mirror course tolerance _

theorem checkAll_mirror (around : Surroundings) (cs : List Constraint) (hcs : AllMirrorable cs) :
    FindMirrored find findAll around cs := by
  cases cs with
  | nil => exact .nil
  | cons c rest =>
      simp only [FindMirrored, mirrorEach, checkAll, Query.answer_bind, Query.answer_pure]
      exact (check_mirror around c hcs.1).append (checkAll_mirror around rest hcs.2)
end

/-- Seen from the second element, the first one lies on the opposite side at the same distance. -/
theorem beside_opposite (around : Surroundings) (side : Side) (a b : Operand) (range : Range)
    (key : String) :
    (((beside side.opposite b a range).check around).answer find findAll).map (·.number? key) =
      (((beside side a b range).check around).answer find findAll).map (·.number? key) := by
  simp only [check, Query.answer_bind, Query.answer_pure, Operand.answer_resolve]
  exact Relation.beside_opposite _ _ side range key

end Check

/-- A constraint without ratios, tables and constraints of one's own is clean on some elements
exactly if its mirror image is clean on the transposed elements.  What they report are mirror
images, one for one and with the same numbers, though not always in the same order.  A constraint on
the gap on one side of an element, and the one on the opposite side of the other element, measure the
same gap and report the same numbers. -/
theorem mirror_symmetry (find : ElementRef → Element) (findAll : GroupRef → Group)
    (around : Surroundings) :
    (∀ c : Constraint, c.Mirrorable →
      let found := (c.check around).answer find findAll
      let mirrored := (c.mirror.check (around.map Element.transposed)).answer
        (fun ref => (find ref).transposed) (fun ref => (findAll ref).transposed)
      (mirrored = [] ↔ found = []) ∧
      ∃ inPlace, inPlace.Perm mirrored ∧
        List.Forall₂ (fun v w => v.Mirrors w ∧ ∀ key, w.number? key = v.number? key) found inPlace) ∧
    ∀ (side : Side) (a b : Operand) (range : Range),
      let found := ((beside side a b range).check around).answer find findAll
      let opposite := ((beside side.opposite b a range).check around).answer find findAll
      (opposite = [] ↔ found = []) ∧
      (∀ key, opposite.map (·.number? key) = found.map (·.number? key)) ∧
      side.opposite.gap (b.denotes find around) (a.denotes find around) =
        side.gap (a.denotes find around) (b.denotes find around) := by
  constructor
  · intro c hc found mirrored
    have hfinds : MirrorAll found mirrored := check_mirror find findAll around c hc
    rcases hfinds.exists_forall₂ with ⟨inPlace, hperm, hall⟩
    exact ⟨hfinds.nil_iff, inPlace, hperm, hall.imp fun v w h => ⟨h, h.number?_eq⟩⟩
  · intro side a b range found opposite
    have hnumbers := beside_opposite find findAll around side a b range
    have hlength : opposite.length = found.length := by
      simpa using congrArg List.length (hnumbers "diff")
    refine ⟨?_, hnumbers, side.gap_opposite _ _⟩
    rw [← List.length_eq_zero_iff, ← List.length_eq_zero_iff, hlength]

/-- Of two items, one is too far above a footer, and just as far left of it along the other axis. -/
theorem mirror_symmetry_of_items :
    let item (y : Float) : Element := .shownAt "li" ⟨0.0, y, 100.0, 20.0⟩
    let footer : Element := .shownAt "footer" ⟨0.0, 60.0, 100.0, 20.0⟩
    let c : Constraint := everyOf (.group ⟨"li", [item 0.0, item 30.0]⟩) fun e =>
      [beside .above (.element e) (.element footer) (.atMost 10.0)]
    let found := (c.check []).answer (fun _ => .blank) (fun _ => ⟨"", []⟩)
    let mirrored := (c.mirror.check []).answer (fun _ => .blank) (fun _ => ⟨"", []⟩)
    c.Mirrorable ∧ found.map (·.path) = ["for_all[0].above"] ∧ mirrored ≠ [] ∧
      ∃ inPlace, inPlace.Perm mirrored ∧
        List.Forall₂ (fun v w => v.Mirrors w ∧ ∀ key, w.number? key = v.number? key)
          found inPlace := by
  intro item footer c found mirrored
  have hc : c.Mirrorable := fun _ => ⟨trivial, trivial⟩
  have hpath : found.map (·.path) = ["for_all[0].above"] := by decide +kernel
  have hdirty : found ≠ [] := by
    intro hclean
    rw [hclean] at hpath
    cases hpath
  have hsymmetry := (mirror_symmetry (fun _ => .blank) (fun _ => ⟨"", []⟩) []).1 c hc
  exact ⟨hc, hpath, mt hsymmetry.1.1 hdirty, hsymmetry.2⟩

end Constraint
end LayoutAudit
