import LayoutAudit.Constraint
import LayoutAudit.Proofs.Coordinate.Order
import LayoutAudit.Proofs.Grid.Delivery

/-!
# Proofs.Relation.Mirror — relations read along the other axis

The two axes of a page play the same part.  If left and top, and width and height, are swapped in
all elements, then what was above is left of, what was as wide is as high, and so on; each relation
finds along one axis what its mirror image finds along the other, with the same numbers.

* `Rect.transposed`, `Element.transposed`, `Group.transposed` — elements along the other axis;
* `Side.mirror` and the like — the words for directions, edges, lines and dimensions;
* `Relation.Mirrored` — the paths of violations that are mirror images;
* `Violation.Mirrors`, `Violation.MirrorAll` — violations that are, with the same numbers, and lists
  of them in any order;
* `Relation.beside_mirror` and the like — one theorem for each relation;
* `Side.gap_opposite` — a gap is the same from both of its sides.
-/

namespace LayoutAudit

/-! ## Elements along the other axis -/

namespace Rect

/-- The rectangle with left and top, and with width and height, swapped. -/
def transposed (r : Rect) : Rect := ⟨r.top, r.left, r.height, r.width⟩

/-- The area is the product of the same two lengths, in the other order. -/
theorem sharedArea_transposed (a b : Rect) :
    a.transposed.sharedArea b.transposed = a.sharedArea b := by
  have hswap (w h : Float) :
      (if w ≤ 0.0 || h ≤ 0.0 then 0.0 else w * h) = if h ≤ 0.0 || w ≤ 0.0 then 0.0 else h * w := by
    rw [Bool.or_comm, Coordinate.mul_comm w h]
  exact hswap _ _

end Rect

namespace Element

def transposed (e : Element) : Element :=
  { e with
    box := e.box.transposed, view := e.view.transposed, canvas := e.canvas.transposed
    lines := e.lines.map (List.map Rect.transposed) }

@[simp] theorem transposed_transposed (e : Element) : e.transposed.transposed = e := by
  rcases e with ⟨selector, box, view, canvas, visible, present, text, lines⟩
  have hlines : (lines.map (List.map Rect.transposed)).map (List.map Rect.transposed) = lines := by
    cases lines with
    | none => rfl
    | some lines => exact congrArg some ((List.map_map).trans (List.map_id lines))
  exact congrArg (Element.mk selector box view canvas visible present text) hlines

theorem lineCount_transposed (e : Element) : e.transposed.lineCount = e.lineCount := by
  unfold lineCount transposed
  cases e.lines with
  | none => rfl
  | some lines => exact List.length_map _

end Element

def Group.transposed (g : Group) : Group := { g with items := g.items.map Element.transposed }

/-! ## Words for the other axis -/

namespace Side

def mirror : Side → Side
  | above => left
  | below => right
  | left => above
  | right => below

theorem gap_mirror (side : Side) (a b : Element) :
    side.mirror.gap a.transposed b.transposed = side.gap a b := by
  cases side <;> rfl

/-- The side on which the second element lies of the first. -/
def opposite : Side → Side
  | above => below
  | below => above
  | left => right
  | right => left

/-- A gap is the same from both of its sides. -/
theorem gap_opposite (side : Side) (a b : Element) : side.opposite.gap b a = side.gap a b := by
  cases side <;> rfl

end Side

namespace Edge

def mirror : Edge → Edge
  | top => left
  | right => bottom
  | bottom => right
  | left => top

theorem inset_mirror (edge : Edge) (a b : Element) :
    edge.mirror.inset a.transposed b.transposed = edge.inset a b := by
  cases edge <;> rfl

theorem all_mirror : (all.map mirror).Perm all := by decide

end Edge

namespace Edges

def mirror (edges : Edges) : Edges := ⟨edges.left, edges.bottom, edges.right, edges.top⟩

theorem test_mirror (edges : Edges) (edge : Edge) : edges.mirror.test edge.mirror = edges.test edge := by
  cases edge <;> rfl

end Edges

namespace Guide

def mirror : Guide → Guide
  | left => top
  | right => bottom
  | top => left
  | bottom => right
  | centerX => centerY
  | centerY => centerX

theorem position_mirror (guide : Guide) (e : Element) :
    guide.mirror.position e.transposed = guide.position e := by
  cases guide <;> rfl

end Guide

def Axis.mirror : Axis → Axis
  | horizontal => vertical
  | vertical => horizontal
  | both => both

namespace Quantity

/-- The quantity along the other axis; a ratio of the two has none. -/
def mirror : Quantity → Quantity
  | width => height
  | height => width
  | aspectRatio => aspectRatio

theorem measure_mirror {quantity : Quantity} (h : quantity ≠ aspectRatio) (e : Element) :
    quantity.mirror.measure e.transposed = quantity.measure e := by
  cases quantity with
  | width => rfl
  | height => rfl
  | aspectRatio => exact absurd rfl h

end Quantity

namespace Dimension

def mirror : Dimension → Dimension
  | width => height
  | height => width

theorem extent_mirror (d : Dimension) (e : Element) : d.mirror.extent e.transposed = d.extent e := by
  cases d <;> rfl

end Dimension

namespace Course

def mirror : Course → Course
  | across => down
  | down => across

theorem gap_mirror (course : Course) (a b : Element) :
    course.mirror.gap a.transposed b.transposed = course.gap a b := by
  cases course <;> rfl

theorem before_mirror (course : Course) (a b : Element) :
    course.mirror.before a.transposed b.transposed = course.before a b := by
  cases course <;> rfl

/-- Sorting along the other axis gives the transposed elements in the same order. -/
theorem gaps_mirror (course : Course) (es : List Element) :
    course.mirror.gaps (es.map Element.transposed) = course.gaps es := by
  have hsorted : (es.map Element.transposed).mergeSort course.mirror.before =
      (es.mergeSort course.before).map Element.transposed :=
    (List.map_mergeSort fun a _ b _ => (course.before_mirror a b).symm).symm
  rw [gaps, gaps, hsorted, Grid.neighbours_map, List.map_map]
  exact List.map_congr_left fun pair _ => course.gap_mirror pair.1 pair.2

end Course

/-! ## Numbers among the details -/

section Numbers

open Json (Value)
open Json.Value (insertMember)

/-- Members of the same names, which hold the same numbers; they may differ in other data. -/
def SameNumber (m m' : String × Value) : Prop := m.1 = m'.1 ∧ m.2.asFloat? = m'.2.asFloat?

theorem SameNumber.refl (m : String × Value) : SameNumber m m := ⟨rfl, rfl⟩

theorem asFloat?_orderly (v : Value) : (orderly v).asFloat? = v.asFloat? := by
  cases v <;> rfl

theorem forall₂_orderlyMembers {ms ms' : List (String × Value)}
    (h : List.Forall₂ SameNumber ms ms') :
    List.Forall₂ SameNumber (orderlyMembers ms) (orderlyMembers ms') := by
  induction h with
  | nil => exact .nil
  | cons hfirst _ ih =>
      refine .cons ⟨hfirst.1, ?_⟩ ih
      rw [asFloat?_orderly, asFloat?_orderly]
      exact hfirst.2

theorem forall₂_insertMember {m m' : String × Value} {ms ms' : List (String × Value)}
    (hm : SameNumber m m') (h : List.Forall₂ SameNumber ms ms') :
    List.Forall₂ SameNumber (insertMember m.1 m.2 ms) (insertMember m'.1 m'.2 ms') := by
  rcases m with ⟨name, v⟩
  rcases m' with ⟨name', v'⟩
  rcases hm with ⟨hname, hvalue⟩
  cases hname
  induction h with
  | nil => exact .cons ⟨rfl, hvalue⟩ .nil
  | @cons first first' _ _ hfirst hrest ih =>
      simp only [insertMember, ← hfirst.1]
      split_ifs
      · exact .cons ⟨rfl, hvalue⟩ (.cons hfirst hrest)
      · exact .cons ⟨rfl, hvalue⟩ hrest
      · exact .cons hfirst ih

theorem forall₂_sorted {ms ms' : List (String × Value)} (h : List.Forall₂ SameNumber ms ms') :
    List.Forall₂ SameNumber (Value.sorted ms) (Value.sorted ms') := by
  have hfold {acc acc' : List (String × Value)} (hacc : List.Forall₂ SameNumber acc acc') :
      List.Forall₂ SameNumber (ms.foldl (fun acc m => insertMember m.1 m.2 acc) acc)
        (ms'.foldl (fun acc m => insertMember m.1 m.2 acc) acc') := by
    induction h generalizing acc acc' with
    | nil => exact hacc
    | cons hfirst _ ih => exact ih (forall₂_insertMember hfirst hacc)
  exact hfold .nil

theorem find?_of_forall₂ {ms ms' : List (String × Value)} (h : List.Forall₂ SameNumber ms ms')
    (key : String) :
    ((ms.find? (·.1 == key)).bind fun m => m.2.asFloat?) =
      (ms'.find? (·.1 == key)).bind fun m => m.2.asFloat? := by
  induction h with
  | nil => rfl
  | cons hfirst _ ih =>
      rw [List.find?_cons, List.find?_cons, hfirst.1]
      split
      · exact hfirst.2
      · exact ih

/-- What differs in texts only has the same numbers. -/
theorem Violation.number?_detailed_congr {path path' message message' : String}
    {ms ms' : List (String × Value)} (h : List.Forall₂ SameNumber ms ms') (key : String) :
    (detailed path' message' ms').number? key = (detailed path message ms).number? key := by
  have hsorted := List.forall₂_reverse_iff.2 (forall₂_sorted (forall₂_orderlyMembers h))
  have hnumber (path message : String) (ms : List (String × Value)) :
      (detailed path message ms).number? key =
        (((Value.sorted (orderlyMembers ms)).reverse.find? (·.1 == key)).bind
          fun m => m.2.asFloat?) :=
    Option.bind_map
  rw [hnumber, hnumber, find?_of_forall₂ hsorted]

end Numbers

/-! ## Violations that are mirror images -/

namespace Relation

/-- The names of relations that speak of no direction. -/
def undirected : List String :=
  ["near", "inside", "centered_in", "overlaps", "no_overlap", "visible", "hidden", "present",
    "absent", "text_is", "text_contains", "text_matches", "line_count", "count_is",
    "amount_of_visible"]

/-- The paths of a violation and of its mirror image. -/
inductive Mirrored : String → String → Prop where
  | undirected {name : String} : name ∈ Relation.undirected → Mirrored name name
  | beside (side : Side) : Mirrored side.relation side.mirror.relation
  | overlapOn (side : Side) :
      Mirrored ("near." ++ side.name ++ ".overlap") ("near." ++ side.mirror.name ++ ".overlap")
  | gapOn (side : Side) :
      Mirrored ("near." ++ side.name ++ ".gap") ("near." ++ side.mirror.name ++ ".gap")
  | insideAt (edge : Edge) : Mirrored ("inside." ++ edge.name) ("inside." ++ edge.mirror.name)
  | aligned (guide : Guide) : Mirrored (alignedName guide) (alignedName guide.mirror)
  | centeredAlong {axis : Axis} : axis ≠ .both →
      Mirrored ("centered_in." ++ axis.name) ("centered_in." ++ axis.mirror.name)
  | measures {quantity : Quantity} : quantity ≠ .aspectRatio →
      Mirrored quantity.relation quantity.mirror.relation
  | same (d : Dimension) : Mirrored d.relation d.mirror.relation
  | gapLike (course : Course) (i : Nat) :
      Mirrored (indexed course.relation i) (indexed course.mirror.relation i)
  | satisfied (i : Nat) : Mirrored (indexed "none" i) (indexed "none" i)
  | present {name name' : String} :
      Mirrored name name' → Mirrored (name ++ ".present") (name' ++ ".present")

end Relation

mutual
/-- A violation and its mirror image, which reports the same numbers along the other axis. -/
inductive Violation.Mirrors : Violation → Violation → Prop where
  | reported {v w : Violation} :
      Relation.Mirrored v.path w.path → (∀ key, w.number? key = v.number? key) → v.Mirrors w
  | under {v w : Violation} (i : Nat) :
      v.Mirrors w →
      (v.under (Relation.indexed "for_all" i)).Mirrors (w.under (Relation.indexed "for_all" i))
  /-- Where no element will do, what is wrong with each of them is part of the violation. -/
  | nowhere (g : Group) {found found' : List (Element × List Violation)} :
      MirrorEvidence found found' →
      (Constraint.nowhere g found).Mirrors (Constraint.nowhere g.transposed found')

/-- Violations and their mirror images, one for one and in any order. -/
inductive Violation.MirrorAll : List Violation → List Violation → Prop where
  | nil : MirrorAll [] []
  | cons {v w : Violation} {vs ws : List Violation} :
      v.Mirrors w → MirrorAll vs ws → MirrorAll (v :: vs) (w :: ws)
  | perm {vs ws ws' : List Violation} : MirrorAll vs ws → ws.Perm ws' → MirrorAll vs ws'

/-- What is wrong with elements one by one, and with the transposed elements. -/
inductive Violation.MirrorEvidence :
    List (Element × List Violation) → List (Element × List Violation) → Prop where
  | nil : MirrorEvidence [] []
  | cons (e : Element) {vs ws : List Violation} {found found' : List (Element × List Violation)} :
      MirrorAll vs ws → MirrorEvidence found found' →
      MirrorEvidence ((e, vs) :: found) ((e.transposed, ws) :: found')
end

namespace Violation

/-- A mirror image has the same number under every name. -/
theorem Mirrors.number?_eq {v w : Violation} (h : v.Mirrors w) (key : String) :
    w.number? key = v.number? key :=
  match h with
  | .reported _ hnumbers => hnumbers key
  | .under _ hinner => hinner.number?_eq key
  | .nowhere g _ => by
      -- The evidence is no number.
      refine number?_detailed_congr ?_ key
      exact .cons ⟨rfl, rfl⟩ .nil

theorem Mirrors.detailed {path path' message message' : String}
    {details details' : List (String × Json.Value)} (hpath : Relation.Mirrored path path')
    (h : List.Forall₂ SameNumber details details') :
    (Violation.detailed path message details).Mirrors (.detailed path' message' details') :=
  .reported hpath (number?_detailed_congr h)

namespace MirrorAll

variable {vs vs' ws ws' : List Violation}

theorem length_eq {vs ws : List Violation} : MirrorAll vs ws → vs.length = ws.length
  | .nil => rfl
  | .cons _ h => congrArg Nat.succ h.length_eq
  | .perm h hperm => h.length_eq.trans hperm.length_eq

/-- One for one, once the mirror images are put in order. -/
theorem exists_forall₂ {vs ws : List Violation} : MirrorAll vs ws →
    ∃ inPlace, inPlace.Perm ws ∧ List.Forall₂ Mirrors vs inPlace
  | .nil => ⟨[], .refl [], .nil⟩
  | .cons hfirst h => by
      rcases h.exists_forall₂ with ⟨inPlace, hperm, hall⟩
      exact ⟨_, hperm.cons _, .cons hfirst hall⟩
  | .perm h hperm => by
      rcases h.exists_forall₂ with ⟨inPlace, hperm', hall⟩
      exact ⟨inPlace, hperm'.trans hperm, hall⟩

/-- Nothing is wrong exactly if nothing is wrong along the other axis. -/
theorem nil_iff (h : MirrorAll vs ws) : ws = [] ↔ vs = [] := by
  rw [← List.length_eq_zero_iff, ← List.length_eq_zero_iff, h.length_eq]

theorem append {vs ws : List Violation} : MirrorAll vs ws → MirrorAll vs' ws' →
    MirrorAll (vs ++ vs') (ws ++ ws')
  | .nil, h' => h'
  | .cons hfirst h, h' => .cons hfirst (h.append h')
  | .perm h hperm, h' => .perm (h.append h') (hperm.append_right ws')

theorem flatMap {α : Type} {f g : α → List Violation} {as : List α}
    (h : ∀ a ∈ as, MirrorAll (f a) (g a)) : MirrorAll (as.flatMap f) (as.flatMap g) := by
  induction as with
  | nil => exact .nil
  | cons a rest ih =>
      rcases List.forall_mem_cons.1 h with ⟨hfirst, hrest⟩
      exact hfirst.append (ih hrest)

theorem under {vs ws : List Violation} (i : Nat) : MirrorAll vs ws →
    MirrorAll (vs.map (Violation.under (Relation.indexed "for_all" i)))
      (ws.map (Violation.under (Relation.indexed "for_all" i)))
  | .nil => .nil
  | .cons hfirst h => .cons (.under i hfirst) (h.under i)
  | .perm h hperm => .perm (h.under i) (hperm.map _)

end MirrorAll

theorem MirrorEvidence.length_eq {found found' : List (Element × List Violation)} :
    MirrorEvidence found found' → found.length = found'.length
  | .nil => rfl
  | .cons _ _ h => congrArg Nat.succ h.length_eq

end Violation

/-! ## One relation after the other -/

namespace Relation

open Violation (MirrorAll)

variable {name name' : String} (a b e : Element)

theorem missing_transposed (operands : List Element) :
    missing (operands.map Element.transposed) = missing operands := by
  have hkept : (fun e : Element => !e.present) ∘ Element.transposed = fun e => !e.present := rfl
  have hselector : Element.selector ∘ Element.transposed = Element.selector := rfl
  rw [missing, missing, List.filter_map, List.map_map, hkept, hselector]

theorem mirrorAll_whenPresent (hname : Mirrored name name') (operands : List Element)
    {result result' : List Violation} (h : MirrorAll result result') :
    MirrorAll (whenPresent name operands result)
      (whenPresent name' (operands.map Element.transposed) result') := by
  unfold whenPresent
  rw [missing_transposed]
  cases missing operands with
  | nil => exact h
  | cons selector rest =>
      exact .cons (.detailed (.present hname) (.cons ⟨rfl, rfl⟩ .nil)) .nil

theorem mirrorAll_require (holds : Bool) {v w : Violation} (h : v.Mirrors w) :
    MirrorAll (require holds v) (require holds w) := by
  cases holds with
  | true => exact .nil
  | false => exact .cons h .nil

theorem forall₂_sameNumber_self (details : List (String × Json.Value)) :
    List.Forall₂ SameNumber details details :=
  List.forall₂_same.2 fun m _ => .refl m

theorem beside_mirror (side : Side) (range : Range) :
    MirrorAll (beside side range a b) (beside side.mirror range a.transposed b.transposed) := by
  refine mirrorAll_whenPresent (.beside side) [a, b] ?_
  rw [side.gap_mirror]
  exact mirrorAll_require _ (.detailed (.beside side) (forall₂_sameNumber_self _))

theorem nearOn_mirror (side : Side) (range : Range) :
    MirrorAll (nearOn side range a b) (nearOn side.mirror range a.transposed b.transposed) := by
  unfold nearOn
  rw [side.gap_mirror]
  split_ifs
  · refine .cons (.detailed (.overlapOn side) ?_) .nil
    rw [side.gap_mirror]
    exact .cons ⟨rfl, rfl⟩ (forall₂_sameNumber_self _)
  · refine mirrorAll_require _ (.detailed (.gapOn side) ?_)
    rw [side.gap_mirror]
    exact .cons ⟨rfl, rfl⟩ (forall₂_sameNumber_self _)

theorem near_mirror (sides : List (Side × Range)) :
    MirrorAll (near sides a b)
      (near (sides.map fun (side, range) => (side.mirror, range)) a.transposed b.transposed) := by
  refine mirrorAll_whenPresent (.undirected (by decide)) [a, b] ?_
  rw [List.flatMap_map]
  exact .flatMap fun m _ => nearOn_mirror a b m.1 m.2

theorem insideAt_mirror (edge : Edge) (range : Range) :
    MirrorAll (insideAt edge range a b) (insideAt edge.mirror range a.transposed b.transposed) := by
  unfold insideAt
  rw [edge.inset_mirror]
  refine mirrorAll_require _ (.detailed (.insideAt edge) ?_)
  exact .cons ⟨rfl, rfl⟩ (forall₂_sameNumber_self _)

theorem inside_mirror (edges : Edges) :
    MirrorAll (inside edges a b) (inside edges.mirror a.transposed b.transposed) := by
  refine mirrorAll_whenPresent (.undirected (by decide)) [a, b] ?_
  -- The edges are reported in a fixed order, which is not that of their mirror images.
  have hedges : MirrorAll (Edge.all.flatMap fun edge => insideAt edge (edges.test edge) a b)
      ((Edge.all.map Edge.mirror).flatMap fun edge =>
        insideAt edge (edges.mirror.test edge) a.transposed b.transposed) := by
    rw [List.flatMap_map]
    refine .flatMap fun edge _ => ?_
    rw [edges.test_mirror]
    exact insideAt_mirror a b edge _
  exact .perm hedges (Edge.all_mirror.flatMap_right _)

theorem overlaps_mirror : MirrorAll (overlaps a b) (overlaps a.transposed b.transposed) := by
  refine mirrorAll_whenPresent (.undirected (by decide)) [a, b] ?_
  have harea : a.transposed.box.sharedArea b.transposed.box = a.box.sharedArea b.box :=
    Rect.sharedArea_transposed a.box b.box
  have hname : "overlaps" ∈ undirected := by decide
  rw [harea]
  exact mirrorAll_require _ (.reported (.undirected hname) fun _ => rfl)

theorem apart_mirror : MirrorAll (apart a b) (apart a.transposed b.transposed) := by
  have harea : a.transposed.box.sharedArea b.transposed.box = a.box.sharedArea b.box :=
    Rect.sharedArea_transposed a.box b.box
  unfold apart
  rw [harea]
  refine mirrorAll_whenPresent (.undirected (by decide)) [a, b] ?_
  exact mirrorAll_require _ (.detailed (.undirected (by decide)) (forall₂_sameNumber_self _))

theorem aligned_mirror (guide : Guide) (tolerance : Float) :
    MirrorAll (aligned guide tolerance a b)
      (aligned guide.mirror tolerance a.transposed b.transposed) := by
  unfold aligned
  rw [guide.position_mirror, guide.position_mirror]
  refine mirrorAll_whenPresent (.aligned guide) [a, b] ?_
  exact mirrorAll_require _ (.detailed (.aligned guide) (forall₂_sameNumber_self _))

theorem centeredAlong_mirror {axis : Axis} (haxis : axis ≠ .both) (guide : Guide)
    (tolerance : Float) :
    MirrorAll (centeredAlong axis.name guide tolerance a b)
      (centeredAlong axis.mirror.name guide.mirror tolerance a.transposed b.transposed) := by
  unfold centeredAlong
  rw [guide.position_mirror, guide.position_mirror]
  exact mirrorAll_require _ (.detailed (.centeredAlong haxis) (forall₂_sameNumber_self _))

theorem centered_mirror (axis : Axis) (tolerance : Float) :
    MirrorAll (centered axis tolerance a b)
      (centered axis.mirror tolerance a.transposed b.transposed) := by
  refine mirrorAll_whenPresent (.undirected (by decide)) [a, b] ?_
  have hacross := centeredAlong_mirror a b (show Axis.horizontal ≠ .both by decide) .centerX tolerance
  have hdown := centeredAlong_mirror a b (show Axis.vertical ≠ .both by decide) .centerY tolerance
  cases axis with
  | horizontal => exact hacross.append .nil
  | vertical => exact hdown.append .nil
  | both =>
      -- What is wrong across is reported first, on either axis.
      refine .perm (hacross.append (hdown.append .nil)) ?_
      simp only [Axis.mirror, Axis.middles, List.flatMap_cons, List.flatMap_nil, List.append_nil]
      exact List.perm_append_comm

theorem measures_mirror {quantity : Quantity} (h : quantity ≠ .aspectRatio) (range : Range) :
    MirrorAll (measures quantity range e) (measures quantity.mirror range e.transposed) := by
  unfold measures
  rw [Quantity.measure_mirror h]
  refine mirrorAll_whenPresent (.measures h) [e] ?_
  cases quantity.measure e with
  | some x => exact mirrorAll_require _ (.detailed (.measures h) (forall₂_sameNumber_self _))
  | none => exact .cons (.reported (.measures h) fun _ => rfl) .nil

theorem same_mirror (d : Dimension) (tolerance : Float) :
    MirrorAll (same d tolerance a b) (same d.mirror tolerance a.transposed b.transposed) := by
  unfold same
  rw [d.extent_mirror, d.extent_mirror]
  refine mirrorAll_whenPresent (.same d) [a, b] ?_
  exact mirrorAll_require _ (.detailed (.same d) (forall₂_sameNumber_self _))

theorem flagged_mirror (flag : Flag) :
    MirrorAll (flagged flag e) (flagged flag e.transposed) := by
  have hname : flag.name ∈ undirected := by cases flag <;> decide
  exact mirrorAll_require _ (.detailed (.undirected hname) (forall₂_sameNumber_self _))

theorem reads_mirror (wording : Wording) :
    MirrorAll (reads wording e) (reads wording e.transposed) := by
  have hname : wording.relation ∈ undirected := by
    cases wording <;> simp [Wording.relation, undirected]
  refine mirrorAll_whenPresent (.undirected hname) [e] ?_
  exact mirrorAll_require _ (.detailed (.undirected hname) (forall₂_sameNumber_self _))

theorem lineCount_mirror (range : Range) :
    MirrorAll (lineCount range e) (lineCount range e.transposed) := by
  unfold lineCount
  rw [e.lineCount_transposed]
  refine mirrorAll_whenPresent (.undirected (by decide)) [e] ?_
  exact mirrorAll_require _ (.detailed (.undirected (by decide)) (forall₂_sameNumber_self _))

theorem counts_mirror (tally : Tally) (range : Range) (g : Group) :
    MirrorAll (counts tally range g) (counts tally range g.transposed) := by
  have hname : tally.relation ∈ undirected := by cases tally <;> decide
  have hcount : tally.count g.transposed = tally.count g := by
    have hincludes : tally.includes ∘ Element.transposed = tally.includes := by
      cases tally <;> rfl
    rw [Tally.count, Group.transposed, List.countP_map, hincludes]
    rfl
  unfold counts
  rw [hcount]
  exact mirrorAll_require _ (.detailed (.undirected hname) (forall₂_sameNumber_self _))

theorem evenlySpaced_mirror (course : Course) (tolerance : Float) (g : Group) :
    MirrorAll (evenlySpaced course tolerance g)
      (evenlySpaced course.mirror tolerance g.transposed) := by
  have hgaps : course.mirror.gaps g.transposed.items = course.gaps g.items :=
    course.gaps_mirror g.items
  unfold evenlySpaced
  rw [hgaps]
  cases course.gaps g.items with
  | nil => exact .nil
  | cons baseline rest =>
      refine .flatMap fun m _ => ?_
      exact mirrorAll_require _ (.detailed (.gapLike course m.2) (forall₂_sameNumber_self _))

/-- Violations with the same details report the same numbers, whatever their texts. -/
theorem number?_require (holds : Bool) (path path' message message' key : String)
    (details : List (String × Json.Value)) :
    (require holds (.detailed path' message' details)).map (·.number? key) =
      (require holds (.detailed path message details)).map (·.number? key) := by
  have hsame : (Violation.detailed path' message' details).number? key =
      (Violation.detailed path message details).number? key :=
    Violation.number?_detailed_congr (forall₂_sameNumber_self details) key
  cases holds with
  | true => exact rfl
  | false =>
      rw [require, if_neg Bool.false_ne_true, require, if_neg Bool.false_ne_true]
      simp only [List.map_cons, List.map_nil, hsame]

/-- Relations that lack operands at the same time, and otherwise report the same numbers. -/
theorem number?_whenPresent {operands operands' : List Element}
    {result result' : List Violation} {key : String} (h : operands'.Perm operands)
    (hresult : result'.map (·.number? key) = result.map (·.number? key)) :
    (whenPresent name' operands' result').map (·.number? key) =
      (whenPresent name operands result).map (·.number? key) := by
  have hmissing : (missing operands').length = (missing operands).length :=
    ((h.filter _).map _).length_eq
  unfold whenPresent
  cases hleft : missing operands' <;> cases hright : missing operands
  · exact hresult
  · simp [hleft, hright] at hmissing
  · simp [hleft, hright] at hmissing
  · next selector' rest' selector rest =>
      have hselectors : SameNumber ("missing", .strings (selector :: rest))
          ("missing", .strings (selector' :: rest')) := ⟨rfl, rfl⟩
      have hsame : (notFound name' (selector' :: rest')).number? key =
          (notFound name (selector :: rest)).number? key := by
        unfold notFound
        exact Violation.number?_detailed_congr (.cons hselectors .nil) key
      simp only [List.map_cons, List.map_nil, hsame]

/-- Which of the two elements a gap is measured from makes no difference to the numbers. -/
theorem beside_opposite (side : Side) (range : Range) (key : String) :
    (beside side.opposite range b a).map (·.number? key) =
      (beside side range a b).map (·.number? key) := by
  unfold beside
  rw [side.gap_opposite]
  exact number?_whenPresent (.swap a b []) (number?_require _ _ _ _ _ key _)

end Relation
end LayoutAudit
