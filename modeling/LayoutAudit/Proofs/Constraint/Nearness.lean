import Mathlib.Data.List.Nodup
import LayoutAudit.Proofs.Relation.Presence
import LayoutAudit.Proofs.Wire.Reading

/-!
# Proofs.Constraint.Nearness — several sides at once

An element that is to lie on several sides of another one is looked at side by side.  Each side is
judged as it would be by itself, but for a gap that is negative, which is an overlap whatever its
range admits.

* `Violation.member?_detailed` — what the details of a violation hold;
* `Violation.diff?` — the distance that a violation tells;
* `Relation.near_eq_map_filter` — several sides at once, from each of them by itself;
* `Constraint.near_against_beside` — what such a constraint reports, and when it is clean.
-/

namespace LayoutAudit

open Json (Value)

/-! ## The details of a violation -/

/-- Of names that are given once, the value is found. -/
theorem member?_of_mem {members : List (String × Value)} {name : String} {v : Value}
    (hnodup : (members.map Prod.fst).Nodup) (hmem : (name, v) ∈ members) :
    (Value.object members).member? name = some v := by
  -- The last member of a name counts, and there is no other one of this name.
  have hfound : (members.reverse.find? (·.1 == name)).isSome :=
    List.find?_isSome.2 ⟨(name, v), List.mem_reverse.2 hmem, beq_self_eq_true name⟩
  rcases Option.isSome_iff_exists.1 hfound with ⟨m, hm⟩
  have hname : m.1 = name := by simpa using List.find?_some hm
  have hsame : m = (name, v) :=
    List.inj_on_of_nodup_map hnodup (List.mem_reverse.1 (List.mem_of_find?_eq_some hm)) hmem hname
  simp [Value.member?, hm, hsame]

theorem orderlyMembers_eq_map (members : List (String × Value)) :
    orderlyMembers members = members.map fun m => (m.1, orderly m.2) := by
  induction members with
  | nil => rfl
  | cons m rest ih => rw [orderlyMembers, ih, List.map_cons]

theorem orderly_float (x : Float) : orderly (.float x) = .float x := by
  unfold Value.float
  split <;> rfl

namespace Violation

/-- Putting details in order loses none of them. -/
theorem member?_detailed (path message : String) {details : List (String × Value)} {name : String}
    {v : Value} (hnodup : (details.map Prod.fst).Nodup) (hmem : (name, v) ∈ details) :
    (detailed path message details).details.bind (·.member? name) = some (orderly v) := by
  have hnames : ((orderlyMembers details).map Prod.fst).Nodup := by
    rw [orderlyMembers_eq_map, List.map_map]
    exact hnodup
  have hin : (name, orderly v) ∈ orderlyMembers details := by
    rw [orderlyMembers_eq_map]
    exact List.mem_map.2 ⟨(name, v), hmem, rfl⟩
  exact member?_of_mem (Value.sortedByName_sorted _).nodup
    ((Value.sorted_perm hnames).mem_iff.2 hin)

/-- The distance that a violation tells.  One that is not finite is told as `null`. -/
def diff? (v : Violation) : Option Value := v.details.bind (·.member? "diff")

theorem diff?_detailed (path message : String) {details : List (String × Value)} {x : Float}
    (hnodup : (details.map Prod.fst).Nodup) (hmem : ("diff", Value.float x) ∈ details) :
    (detailed path message details).diff? = some (.float x) := by
  rw [diff?, member?_detailed path message hnodup hmem, orderly_float]

end Violation

/-! ## Sides one by one -/

namespace Relation

variable {a b : Element}

/-- What is wrong on a side on which something is. -/
def wrongOn (side : Side) (range : Range) (a b : Element) : Violation :=
  if side.gap a b < 0.0 then overlapOn side a b else gapOn side range a b

theorem diff?_wrongOn (side : Side) (range : Range) (a b : Element) :
    (wrongOn side range a b).diff? = some (.float (side.gap a b)) := by
  unfold wrongOn
  split
  · exact Violation.diff?_detailed _ _ (by simp) (by simp)
  · exact Violation.diff?_detailed _ _ (by simp) (by simp)

theorem diff?_of_mem_beside {side : Side} {range : Range}
    (hpresent : ∀ e ∈ [a, b], e.present = true) {v : Violation} (hv : v ∈ beside side range a b) :
    v.diff? = some (.float (side.gap a b)) := by
  rw [beside, whenPresent_of_present hpresent, require] at hv
  split at hv
  · cases hv
  · rw [List.mem_singleton.1 hv]
    exact Violation.diff?_detailed _ _ (by simp) (by simp)

/-- The two ways for a side to be wrong have different names. -/
theorem path_wrongOn (side : Side) (range : Range) (a b : Element) :
    ((wrongOn side range a b).path = "near." ++ side.name ++ ".overlap" ↔ side.gap a b < 0.0) ∧
      ((wrongOn side range a b).path = "near." ++ side.name ++ ".gap" ↔
        ¬ side.gap a b < 0.0) := by
  have hnames : "near." ++ side.name ++ ".overlap" ≠ "near." ++ side.name ++ ".gap" := by
    cases side <;> decide
  by_cases hgap : side.gap a b < 0.0
  · have hpath : (wrongOn side range a b).path = "near." ++ side.name ++ ".overlap" := by
      rw [wrongOn, if_pos hgap]
      rfl
    simp [hpath, hgap, hnames]
  · have hpath : (wrongOn side range a b).path = "near." ++ side.name ++ ".gap" := by
      rw [wrongOn, if_neg hgap]
      rfl
    simp [hpath, hgap, hnames.symm]

/-- Is a side wrong?  It is if the gap is negative, or if the relation on that side finds so. -/
def failsOn (a b : Element) (p : Side × Range) : Bool :=
  p.1.gap a b < 0.0 || !(beside p.1 p.2 a b).isEmpty

theorem nearOn_eq (hpresent : ∀ e ∈ [a, b], e.present = true) (side : Side) (range : Range) :
    nearOn side range a b = if failsOn a b (side, range) then [wrongOn side range a b] else [] := by
  rw [failsOn, beside, whenPresent_of_present hpresent, nearOn, wrongOn]
  by_cases hgap : side.gap a b < 0.0
  · simp [hgap]
  · cases hadmits : range.admits (side.gap a b) <;> simp [hgap, require]

theorem near_eq_map_filter (hpresent : ∀ e ∈ [a, b], e.present = true)
    (sides : List (Side × Range)) :
    near sides a b = (sides.filter (failsOn a b)).map fun p => wrongOn p.1 p.2 a b := by
  rw [near, whenPresent_of_present hpresent]
  induction sides with
  | nil => rfl
  | cons p rest ih =>
      rcases p with ⟨side, range⟩
      rw [List.flatMap_cons, ih]
      change nearOn side range a b ++ _ = _
      rw [nearOn_eq hpresent]
      cases hfails : failsOn a b (side, range) <;> simp [hfails]

end Relation

/-! ## Constraints -/

namespace Constraint

variable (find : ElementRef → Element) (findAll : GroupRef → Group) (around : Surroundings)

/-- A constraint on several sides, against the constraints on each of them, for two elements that
are there.  One violation is reported for each side that is wrong, in the order in which the sides
are given, and it tells the distance that the constraint on that side tells. -/
theorem near_against_beside (a b : Operand) (sides : List (Side × Range)) (hsides : sides ≠ [])
    (ha : (a.denotes find around).present = true) (hb : (b.denotes find around).present = true) :
    let gap (side : Side) : Float := side.gap (a.denotes find around) (b.denotes find around)
    let alone (p : Side × Range) := ((beside p.1 a b p.2).check around).answer find findAll
    let found := ((near a b sides).check around).answer find findAll
    List.Forall₂
      (fun p v =>
        (v.path = "near." ++ p.1.name ++ ".overlap" ↔ gap p.1 < 0.0) ∧
        (v.path = "near." ++ p.1.name ++ ".gap" ↔ ¬ gap p.1 < 0.0) ∧
        v.diff? = some (.float (gap p.1)) ∧ ∀ w ∈ alone p, w.diff? = v.diff?)
      (sides.filter fun p => gap p.1 < 0.0 || !(alone p).isEmpty) found ∧
    (found = [] ↔ ∀ p ∈ sides, alone p = [] ∧ ¬ gap p.1 < 0.0) := by
  intro gap alone found
  have hpresent : ∀ e ∈ [a.denotes find around, b.denotes find around], e.present = true := by
    simp [ha, hb]
  -- All constraints come down to relations between what the operands denote.
  have halone (p : Side × Range) :
      alone p = Relation.beside p.1 p.2 (a.denotes find around) (b.denotes find around) := by
    simp [alone, check]
  have hfound : found = (sides.filter fun p => gap p.1 < 0.0 || !(alone p).isEmpty).map fun p =>
      Relation.wrongOn p.1 p.2 (a.denotes find around) (b.denotes find around) := by
    have hnear : found = Relation.near sides (a.denotes find around) (b.denotes find around) := by
      simp [found, check, hsides]
    rw [hnear, Relation.near_eq_map_filter hpresent]
    simp only [halone]
    rfl
  constructor
  · rw [hfound, List.forall₂_map_right_iff]
    refine List.forall₂_same.2 fun p _ => ?_
    have hdiff := Relation.diff?_wrongOn p.1 p.2 (a.denotes find around) (b.denotes find around)
    rcases Relation.path_wrongOn p.1 p.2 (a.denotes find around) (b.denotes find around) with
      ⟨hoverlap, hgap⟩
    refine ⟨hoverlap, hgap, hdiff, fun w hw => ?_⟩
    rw [hdiff]
    exact Relation.diff?_of_mem_beside hpresent (halone p ▸ hw)
  · rw [hfound, List.map_eq_nil_iff, List.filter_eq_nil_iff]
    refine forall₂_congr fun p _ => ?_
    simp [and_comm]

/-- An item that is too far above a footer, and lies over it from left to right.  The range of the
other side admits the overlap, which is reported all the same. -/
theorem near_against_beside_of_item :
    let item := Element.shownAt "li" ⟨0.0, 0.0, 100.0, 20.0⟩
    let footer := Element.shownAt "footer" ⟨0.0, 60.0, 100.0, 20.0⟩
    let sides : List (Side × Range) :=
      [(.above, .atMost 10.0), (.left, .atMost 0.0), (.above, .atLeast 0.0)]
    let gap (side : Side) : Float := side.gap item footer
    let alone (p : Side × Range) :=
      ((beside p.1 (.element item) (.element footer) p.2).check []).answer
        (fun _ => .blank) (fun _ => ⟨"", []⟩)
    let found := ((near (.element item) (.element footer) sides).check []).answer
      (fun _ => .blank) (fun _ => ⟨"", []⟩)
    sides ≠ [] ∧ item.present = true ∧ footer.present = true ∧
      found.map (·.path) = ["near.above.gap", "near.left.overlap"] ∧
      (alone (.left, .atMost 0.0)).isEmpty = true ∧
      List.Forall₂ (fun p v => v.diff? = some (.float (gap p.1)) ∧ ∀ w ∈ alone p, w.diff? = v.diff?)
        (sides.filter fun p => gap p.1 < 0.0 || !(alone p).isEmpty) found := by
  intro item footer sides gap alone found
  have hagree := (near_against_beside (fun _ => .blank) (fun _ => ⟨"", []⟩) [] (.element item)
    (.element footer) sides (List.cons_ne_nil _ _) rfl rfl).1
  refine ⟨List.cons_ne_nil _ _, rfl, rfl, by decide +kernel, by decide +kernel, ?_⟩
  exact hagree.imp fun _ _ h => h.2.2

end Constraint
end LayoutAudit
