import Mathlib.Data.List.Basic
import LayoutAudit.Proofs.Constraint.Meaning
import LayoutAudit.Proofs.Relation.Presence
import LayoutAudit.Proofs.Spec.Calls

/-!
# Proofs.Constraint.Paths — the path of a violation leads to what reported it

The path of a violation begins with the name of the constraint that reports it.  A statement about
all elements of a group puts the index of the element in front of what is wrong with it, so that the
path of a violation tells the way to where it comes from, the outermost index first.

* `Rooted` — a path that begins with a name;
* `Relation.rooted_beside` and the like — the paths of the relations;
* `Constraint.rooted_check` — the paths of a constraint;
* `Constraint.Leads`, `Violation.behind` — the way into nested statements, and the path along it;
* `Constraint.mem_check_iff` — every violation is found at the end of such a way;
* `Constraint.behind_path_inj` — the path tells the way;
* `Constraint.path_of_violation` — all of this.
-/

namespace LayoutAudit

/-- A path begins with a name, and what comes behind the name is set off by a point or a bracket. -/
def Rooted (name path : String) : Prop :=
  ∃ rest : String, path = name ++ rest ∧ ∀ c ∈ rest.toList.head?, c = '.' ∨ c = '['

namespace Rooted

variable {name path : String}

theorem self (name : String) : Rooted name name := ⟨"", by simp, by simp⟩

/-- What stands behind the name and a point. -/
theorem point {front : String} (hfront : front = name ++ ".") (rest : String) :
    Rooted name (front ++ rest) :=
  ⟨"." ++ rest, by rw [hfront, String.append_assoc], by simp⟩

/-- What stands behind the name and an index. -/
theorem indexed (name : String) (i : Nat) (rest : String) :
    Rooted name (Relation.indexed name i ++ rest) := by
  refine ⟨"[" ++ toString i ++ "]" ++ rest, ?_, by simp⟩
  simp only [Relation.indexed, String.append_assoc]

end Rooted

/-! ## The paths of the relations -/

namespace Relation

/-- The paths of some violations begin with a name. -/
def AllRooted (name : String) (found : List Violation) : Prop := ∀ v ∈ found, Rooted name v.path

variable {name : String} {found : List Violation} {a b e : Element} {g : Group}

theorem allRooted_nil : AllRooted name [] := by simp [AllRooted]

theorem allRooted_append {more : List Violation} (h : AllRooted name found)
    (hmore : AllRooted name more) : AllRooted name (found ++ more) := by
  intro v hv
  exact (List.mem_append.1 hv).elim (h v) (hmore v)

theorem allRooted_require {holds : Bool} {v : Violation} (h : Rooted name v.path) :
    AllRooted name (require holds v) := by
  intro w hw
  rw [mem_require hw]
  exact h

theorem allRooted_single {v : Violation} (h : Rooted name v.path) : AllRooted name [v] := by
  intro w hw
  rw [List.mem_singleton.1 hw]
  exact h

theorem allRooted_flatMap {α : Type} {as : List α} {f : α → List Violation}
    (h : ∀ a ∈ as, AllRooted name (f a)) : AllRooted name (as.flatMap f) := by
  intro v hv
  rcases List.mem_flatMap.1 hv with ⟨a, ha, hv⟩
  exact h a ha v hv

/-- What is missing is reported under the name of the relation as well. -/
theorem allRooted_whenPresent {operands : List Element} (h : AllRooted name found) :
    AllRooted name (whenPresent name operands found) := by
  unfold whenPresent
  split
  · exact h
  · refine allRooted_single ⟨".present", rfl, by simp⟩

theorem rooted_beside (side : Side) (range : Range) :
    AllRooted side.relation (beside side range a b) :=
  allRooted_whenPresent (allRooted_require (.self _))

theorem rooted_near (sides : List (Side × Range)) : AllRooted "near" (near sides a b) := by
  have hside (side : Side) (kind : String) : Rooted "near" ("near." ++ side.name ++ kind) := by
    rw [String.append_assoc]
    exact .point rfl (side.name ++ kind)
  refine allRooted_whenPresent (allRooted_flatMap fun ⟨side, range⟩ _ => ?_)
  simp only [nearOn]
  split
  · exact allRooted_single (v := overlapOn side a b) (hside side ".overlap")
  · exact allRooted_require (hside side ".gap")

theorem rooted_inside (edges : Edges) : AllRooted "inside" (inside edges a b) :=
  allRooted_whenPresent <| allRooted_flatMap fun edge _ =>
    allRooted_require (.point rfl edge.name)

theorem rooted_aligned (guide : Guide) (tolerance : Float) :
    AllRooted (alignedName guide) (aligned guide tolerance a b) :=
  allRooted_whenPresent (allRooted_require (.self _))

theorem rooted_centered (axis : Axis) (tolerance : Float) :
    AllRooted "centered_in" (centered axis tolerance a b) :=
  allRooted_whenPresent <| allRooted_flatMap fun middle _ =>
    allRooted_require (.point rfl middle.1)

theorem rooted_measures (quantity : Quantity) (range : Range) :
    AllRooted quantity.relation (measures quantity range e) := by
  refine allRooted_whenPresent ?_
  split
  · exact allRooted_require (.self _)
  · exact allRooted_single (.self _)

theorem rooted_same (d : Dimension) (tolerance : Float) :
    AllRooted d.relation (same d tolerance a b) :=
  allRooted_whenPresent (allRooted_require (.self _))

theorem rooted_overlaps : AllRooted "overlaps" (overlaps a b) :=
  allRooted_whenPresent (allRooted_require (.self _))

theorem rooted_apart : AllRooted "no_overlap" (apart a b) :=
  allRooted_whenPresent (allRooted_require (.self _))

theorem rooted_flagged (flag : Flag) : AllRooted flag.name (flagged flag e) :=
  allRooted_require (.self _)

theorem rooted_reads (wording : Wording) : AllRooted wording.relation (reads wording e) :=
  allRooted_whenPresent (allRooted_require (.self _))

theorem rooted_lineCount (range : Range) : AllRooted "line_count" (lineCount range e) :=
  allRooted_whenPresent (allRooted_require (.self _))

theorem rooted_counts (tally : Tally) (range : Range) :
    AllRooted tally.relation (counts tally range g) :=
  allRooted_require (.self _)

theorem rooted_tabular (table : Table) : AllRooted "table_layout" (tabular table g) := by
  -- Behind the name comes a point in any case; the indices stand further back.
  have hbehind (more : String) : Rooted "table_layout" ("table_layout." ++ more) := .point rfl more
  have hrow (r : Nat) (more : String) :
      Rooted "table_layout" (indexed "table_layout.row" r ++ more) := by
    simp only [indexed, String.append_assoc]
    exact hbehind ("row" ++ ("[" ++ (toString r ++ ("]" ++ more))))
  have hgap (r i : Nat) :
      Rooted "table_layout" (indexed (indexed "table_layout.row" r ++ ".gap") i) := by
    rw [indexed, String.append_assoc, String.append_assoc, String.append_assoc]
    exact hrow r _
  have hbetween (r : Nat) : Rooted "table_layout" (indexed "table_layout.row_gap" r) := by
    simp only [indexed, String.append_assoc]
    exact hbehind ("row_gap" ++ ("[" ++ (toString r ++ "]")))
  have hwithin (r : Nat) (row : List Element) :
      AllRooted "table_layout" (withinRow g.selector table r row) := by
    unfold withinRow
    refine allRooted_append (allRooted_require (hrow r ".columns")) ?_
    split
    · exact allRooted_flatMap fun ⟨pair, i⟩ _ => allRooted_require (hgap r i)
    · exact allRooted_nil
  refine allRooted_append (allRooted_flatMap fun ⟨row, r⟩ _ => hwithin r row) ?_
  unfold allBetweenRows
  split
  · exact allRooted_flatMap fun ⟨pair, r⟩ _ => allRooted_require (hbetween r)
  · exact allRooted_nil

theorem rooted_evenlySpaced (course : Course) (tolerance : Float) :
    AllRooted course.relation (evenlySpaced course tolerance g) := by
  have hgap (i : Nat) : Rooted course.relation (indexed course.relation i) := by
    simpa using Rooted.indexed course.relation i ""
  unfold evenlySpaced
  split
  · exact allRooted_nil
  · exact allRooted_flatMap fun ⟨gap, i⟩ _ => allRooted_require (hgap i)

end Relation

/-! ## The paths of a constraint -/

namespace Constraint

/-- Is this a constraint of one's own?  Such a constraint reports under whatever path it likes. -/
def isOwn : Constraint → Bool
  | own _ _ => true
  | _ => false

/-- Is this a statement about all elements of a group? -/
def isEveryOf : Constraint → Bool
  | everyOf _ _ => true
  | _ => false

variable (find : ElementRef → Element) (findAll : GroupRef → Group)

/-- A statement about all elements reports what the constraints of an element report, under the
index of the element. -/
theorem mem_everyOf_iff (around : Surroundings) (g : GroupOperand)
    (body : Element → List Constraint) (v : Violation) :
    v ∈ ((everyOf g body).check around).answer find findAll ↔
      ∃ i e u, (g.denotes findAll).items[i]? = some e ∧
        u ∈ (checkAll (e :: around) (body e)).answer find findAll ∧
        v = u.under (Relation.indexed "for_all" i) := by
  simp only [check, numbered, Query.answer_bind, Query.answer_pure, Query.answer_traverse,
    answer_resolve, List.mem_flatMap, List.mem_map, Prod.exists, List.mem_zipIdx_iff_getElem?,
    List.getElem?_map, Option.map_eq_some_iff]
  constructor
  · rintro ⟨_, i, ⟨e, he, rfl⟩, u, hu, rfl⟩
    exact ⟨i, e, u, he, hu, rfl⟩
  · rintro ⟨i, e, u, he, hu, rfl⟩
    exact ⟨_, i, ⟨e, he, rfl⟩, u, hu, rfl⟩

theorem rooted_everyOf (around : Surroundings) (g : GroupOperand)
    (body : Element → List Constraint) :
    Relation.AllRooted "for_all" (((everyOf g body).check around).answer find findAll) := by
  intro v hv
  rcases (mem_everyOf_iff find findAll around g body v).1 hv with ⟨i, e, u, -, -, rfl⟩
  simp only [Violation.under, String.append_assoc]
  exact .indexed "for_all" i ("." ++ u.path)

theorem rooted_someOf (around : Surroundings) (g : GroupOperand)
    (body : Element → List Constraint) :
    Relation.AllRooted "exists" (((someOf g body).check around).answer find findAll) := by
  simp only [check, Query.answer_bind, Query.answer_pure]
  split
  · exact Relation.allRooted_nil
  · exact Relation.allRooted_single (.self _)

theorem rooted_noneOf (around : Surroundings) (g : GroupOperand)
    (body : Element → List Constraint) :
    Relation.AllRooted "none" (((noneOf g body).check around).answer find findAll) := by
  simp only [check, Query.answer_bind, Query.answer_pure]
  split
  · refine Relation.allRooted_single ?_
    simpa [satisfied, Violation.detailed] using Rooted.indexed "none" _ ""
  · exact Relation.allRooted_nil

/-- What a constraint reports stands under its name. -/
theorem rooted_check (around : Surroundings) {c : Constraint} (hown : c.isOwn = false) :
    Relation.AllRooted c.name ((c.check around).answer find findAll) := by
  cases c
  case own => simp [isOwn] at hown
  case everyOf g body => exact rooted_everyOf find findAll around g body
  case someOf g body => exact rooted_someOf find findAll around g body
  case noneOf g body => exact rooted_noneOf find findAll around g body
  case near a b sides =>
    rw [check]
    split
    · exact Relation.allRooted_single (.self _)
    · simp only [Query.answer_bind, Query.answer_pure]
      exact Relation.rooted_near sides
  -- The others report what a relation finds wrong with the operands.
  all_goals simp only [name, check, Query.answer_bind, Query.answer_pure]
  case beside side a b range => exact Relation.rooted_beside side range
  case inside a b edges => exact Relation.rooted_inside edges
  case aligned a b guide tolerance => exact Relation.rooted_aligned guide tolerance
  case centered a b axis tolerance => exact Relation.rooted_centered axis tolerance
  case measures a quantity range => exact Relation.rooted_measures quantity range
  case same a b dimension tolerance => exact Relation.rooted_same dimension tolerance
  case overlaps a b => exact Relation.rooted_overlaps
  case apart a b => exact Relation.rooted_apart
  case flagged a flag => exact Relation.rooted_flagged flag
  case reads a wording => exact Relation.rooted_reads wording
  case lineCount a range => exact Relation.rooted_lineCount range
  case counts g tally range => exact Relation.rooted_counts tally range
  case tabular g table => exact Relation.rooted_tabular table
  case evenlySpaced g course tolerance => exact Relation.rooted_evenlySpaced course tolerance

/-! ## The way into nested statements -/

/-- Going into the statements about all elements, each time to the element of the given index and to
one of its constraints, one comes to another constraint with other elements around it. -/
inductive Leads : Surroundings → Constraint → List Nat → Surroundings → Constraint → Prop where
  /-- Without going anywhere. -/
  | here (around : Surroundings) (c : Constraint) : Leads around c [] around c
  /-- Into a statement first. -/
  | into {around within : Surroundings} {g : GroupOperand} {body : Element → List Constraint}
      {i : Nat} {e : Element} {c leaf : Constraint} {is : List Nat}
      (hitem : (g.denotes findAll).items[i]? = some e) (hbody : c ∈ body e)
      (hrest : Leads (e :: around) c is within leaf) :
      Leads around (everyOf g body) (i :: is) within leaf

end Constraint

/-- A path with the indices of the elements in front of it, the first outermost. -/
def trail : List Nat → String → String
  | [], path => path
  | i :: is, path => Relation.indexed "for_all" i ++ "." ++ trail is path

/-- A violation as the statements around it report it, the indices given from the outermost. -/
def Violation.behind (is : List Nat) (v : Violation) : Violation := { v with path := trail is v.path }

@[simp] theorem Violation.behind_nil (v : Violation) : v.behind [] = v := rfl

namespace Constraint

variable (find : ElementRef → Element) (findAll : GroupRef → Group)

/-- The violations that are found at the end of a way from a constraint. -/
def Reported (around : Surroundings) (c : Constraint) (v : Violation) : Prop :=
  ∃ is within leaf u, Leads findAll around c is within leaf ∧ leaf.isEveryOf = false ∧
    u ∈ (leaf.check within).answer find findAll ∧ v = u.behind is

/-- Only the empty way leads from a constraint that is no statement about all elements. -/
theorem reported_iff_of_not_everyOf {around : Surroundings} {c : Constraint}
    (hleaf : c.isEveryOf = false) (v : Violation) :
    Reported find findAll around c v ↔ v ∈ (c.check around).answer find findAll := by
  constructor
  · rintro ⟨is, within, leaf, u, hleads, -, hu, rfl⟩
    cases hleads with
    | here => exact hu
    | into => simp [isEveryOf] at hleaf
  · intro hv
    exact ⟨[], around, c, v, .here around c, hleaf, hv, rfl⟩

/-- Any way from a statement about all elements goes to one of them first. -/
theorem reported_everyOf_iff (around : Surroundings) (g : GroupOperand)
    (body : Element → List Constraint) (v : Violation) :
    Reported find findAll around (everyOf g body) v ↔
      ∃ i e u, (g.denotes findAll).items[i]? = some e ∧
        (∃ c ∈ body e, Reported find findAll (e :: around) c u) ∧
        v = u.under (Relation.indexed "for_all" i) := by
  constructor
  · rintro ⟨is, within, leaf, u, hleads, hleaf, hu, rfl⟩
    cases hleads with
    | here => simp [isEveryOf] at hleaf
    | @into _ _ _ _ i e c _ is hitem hbody hrest =>
        exact ⟨i, e, u.behind is, hitem, ⟨c, hbody, is, within, leaf, u, hrest, hleaf, hu, rfl⟩, rfl⟩
  · rintro ⟨i, e, _, hitem, ⟨c, hbody, is, within, leaf, u, hrest, hleaf, hu, rfl⟩, rfl⟩
    exact ⟨i :: is, within, leaf, u, .into hitem hbody hrest, hleaf, hu, rfl⟩

mutual
/-- A constraint reports what is found at the end of the ways from it.  By recursion on the
constraint, for all elements around it, since each statement adds one. -/
theorem mem_check_iff (around : Surroundings) (c : Constraint) (v : Violation) :
    v ∈ (c.check around).answer find findAll ↔ Reported find findAll around c v := by
  cases c with
  | everyOf g body =>
      rw [mem_everyOf_iff, reported_everyOf_iff]
      refine exists_congr fun i => exists_congr fun e => exists_congr fun u => ?_
      rw [mem_checkAll_iff (e :: around) (body e) u]
  | _ => exact (reported_iff_of_not_everyOf find findAll rfl v).symm

theorem mem_checkAll_iff (around : Surroundings) (cs : List Constraint) (v : Violation) :
    v ∈ (checkAll around cs).answer find findAll ↔
      ∃ c ∈ cs, Reported find findAll around c v := by
  cases cs with
  | nil => simp [checkAll]
  | cons c rest =>
      have hrest := mem_checkAll_iff around rest v
      rw [answer_checkAll] at hrest ⊢
      rw [List.flatMap_cons, List.mem_append, hrest, mem_check_iff around c v]
      simp
end

end Constraint

/-! ## The path tells the way -/

/-- Only the path of a statement about all elements begins with the letter that its name begins
with. -/
theorem Constraint.head_name_ne {c : Constraint} (hown : c.isOwn = false)
    (hleaf : c.isEveryOf = false) : c.name.toList.head?.any (· != 'f') = true := by
  cases c
  case own => simp [isOwn] at hown
  case everyOf => simp [isEveryOf] at hleaf
  case beside side _ _ _ => cases side <;> simp [name, Side.relation]
  case aligned _ _ guide _ => simp [name, Relation.alignedName]
  case measures _ quantity _ => cases quantity <;> simp [name, Quantity.relation]
  case same _ _ dimension _ => simp [name, Dimension.relation]
  case flagged _ flag => cases flag <;> simp [name, Flag.name]
  case reads _ wording => cases wording <;> simp [name, Wording.relation]
  case counts _ tally _ => cases tally <;> simp [name, Tally.relation]
  case evenlySpaced _ course _ => cases course <;> simp [name, Course.relation]
  all_goals simp [name]

theorem head_rooted {name path : String} (h : Rooted name path)
    (hname : name.toList.head?.any (· != 'f') = true) : path.toList.head? ≠ some 'f' := by
  rcases h with ⟨rest, rfl, -⟩
  cases hhead : name.toList.head? with
  | none => simp [hhead] at hname
  | some d =>
      rw [String.toList_append, List.head?_append, hhead]
      simpa [hhead] using hname

theorem isDigit_of_mem_toString {i : Nat} {d : Char} (hd : d ∈ (toString i).toList) :
    d.isDigit = true := by
  rw [Nat.toString_eq_repr, Nat.toList_repr] at hd
  exact Nat.isDigit_of_mem_toDigits (by decide) (by decide) hd

/-- The index ends at the bracket, which is no digit. -/
theorem takeWhile_index (i : Nat) (rest : List Char) :
    ((toString i).toList ++ ']' :: rest).takeWhile Char.isDigit = (toString i).toList := by
  rw [List.takeWhile_append_of_pos fun d hd => isDigit_of_mem_toString hd]
  simp

theorem indexed_append_inj {name : String} {i j : Nat} {p q : String}
    (h : Relation.indexed name i ++ p = Relation.indexed name j ++ q) : i = j ∧ p = q := by
  have hlists : (toString i).toList ++ ']' :: p.toList = (toString j).toList ++ ']' :: q.toList := by
    simpa [Relation.indexed] using congrArg String.toList h
  have hindex : (toString i).toList = (toString j).toList := by
    rw [← takeWhile_index i p.toList, hlists, takeWhile_index]
  have hij : i = j := by
    simp only [Nat.toString_eq_repr, Nat.toList_repr] at hindex
    exact Spec.Session.toDigits_inj hindex
  subst hij
  exact ⟨rfl, by simpa [String.toList_inj] using hlists⟩

theorem head_trail_cons (i : Nat) (is : List Nat) (p : String) :
    (trail (i :: is) p).toList.head? = some 'f' := by
  simp [trail, Relation.indexed]

theorem trail_inj {p q : String} (hp : p.toList.head? ≠ some 'f') (hq : q.toList.head? ≠ some 'f') :
    ∀ {is js : List Nat}, trail is p = trail js q → is = js ∧ p = q
  | [], [], h => ⟨rfl, h⟩
  | [], j :: js, h => by
      have hfront : p.toList.head? = some 'f' := by
        rw [show p = trail (j :: js) q from h, head_trail_cons]
      exact absurd hfront hp
  | i :: is, [], h => by
      have hfront : q.toList.head? = some 'f' := by
        rw [show q = trail (i :: is) p from h.symm, head_trail_cons]
      exact absurd hfront hq
  | i :: is, j :: js, h => by
      simp only [trail, String.append_assoc] at h
      rcases indexed_append_inj h with ⟨rfl, hrest⟩
      rcases trail_inj hp hq ((String.append_right_inj ".").1 hrest) with ⟨rfl, hpq⟩
      exact ⟨rfl, hpq⟩

namespace Constraint

variable (find : ElementRef → Element) (findAll : GroupRef → Group)

/-- Two violations at the ends of two ways, neither reported by a constraint of one's own, have the
same path only if the ways go by the same indices. -/
theorem behind_path_inj {within within' : Surroundings} {leaf leaf' : Constraint}
    {u u' : Violation} {is js : List Nat}
    (hleaf : leaf.isEveryOf = false) (hleaf' : leaf'.isEveryOf = false)
    (hown : leaf.isOwn = false) (hown' : leaf'.isOwn = false)
    (hu : u ∈ (leaf.check within).answer find findAll)
    (hu' : u' ∈ (leaf'.check within').answer find findAll)
    (hpath : (u.behind is).path = (u'.behind js).path) : is = js ∧ u.path = u'.path := by
  have hfront : u.path.toList.head? ≠ some 'f' :=
    head_rooted (rooted_check find findAll within hown u hu) (head_name_ne hown hleaf)
  have hfront' : u'.path.toList.head? ≠ some 'f' :=
    head_rooted (rooted_check find findAll within' hown' u' hu') (head_name_ne hown' hleaf')
  exact trail_inj hfront hfront' hpath

/-- The path of a violation, whatever the elements around a constraint.

1. It is the name of the constraint, behind which nothing, a point or a bracket stands.
2. What a statement about all elements reports is what the constraints of one of its elements
   report, under the index of that element.
3. So what a constraint reports is what is reported at the end of a way through such statements,
   under the indices on the way, the outermost first.
4. The path tells these indices: ways that end at constraints which are not one's own give the same
   path only if they go by the same indices.
5. Every violation of a report is one that a constraint of the spec reports in this manner. -/
theorem path_of_violation (around : Surroundings) :
    (∀ c : Constraint, c.isOwn = false →
      ∀ v ∈ (c.check around).answer find findAll, Rooted c.name v.path) ∧
    (∀ (g : GroupOperand) (body : Element → List Constraint) (v : Violation),
      v ∈ ((everyOf g body).check around).answer find findAll ↔
        ∃ i e u, (g.denotes findAll).items[i]? = some e ∧
          u ∈ (checkAll (e :: around) (body e)).answer find findAll ∧
          v = u.under (Relation.indexed "for_all" i)) ∧
    (∀ (c : Constraint) (v : Violation), v ∈ (c.check around).answer find findAll ↔
      ∃ is within leaf u, Leads findAll around c is within leaf ∧ leaf.isEveryOf = false ∧
        u ∈ (leaf.check within).answer find findAll ∧ v = u.behind is) ∧
    (∀ c is js within within' leaf leaf' u u',
      Leads findAll around c is within leaf → Leads findAll around c js within' leaf' →
      leaf.isEveryOf = false → leaf'.isEveryOf = false →
      leaf.isOwn = false → leaf'.isOwn = false →
      u ∈ (leaf.check within).answer find findAll →
      u' ∈ (leaf'.check within').answer find findAll →
      (u.behind is).path = (u'.behind js).path → is = js ∧ u.path = u'.path) ∧
    (∀ (s : Spec) (m : Measurement) (o : Occasion), ∀ v ∈ (s.evaluate m o).violations,
      ∃ c ∈ s.constraintsIn m (o.context m),
        v ∈ (c.check []).answer (s.elementIn m) (s.groupIn m)) := by
  refine ⟨?_, ?_, ?_, ?_, ?_⟩
  · intro c hown
    exact rooted_check find findAll around hown
  · exact mem_everyOf_iff find findAll around
  · exact mem_check_iff find findAll around
  · intro c is js within within' leaf leaf' u u' _ _ hleaf hleaf' hown hown' hu hu' hpath
    exact behind_path_inj find findAll hleaf hleaf' hown hown' hu hu' hpath
  · intro s m o v hv
    rw [Spec.violations_evaluate] at hv
    exact List.mem_flatMap.1 hv

/-- Two lists of two items each, of which none is visible: four violations, each under two
indices. -/
theorem path_of_violation_of_lists :
    let items : List Element := [.missing "li", .missing "li"]
    let inner : Constraint := forAll (.group ⟨"li", items⟩) [flagged (.enclosing 0) .visible]
    let c : Constraint := forAll (.group ⟨"ul", items⟩) [inner]
    let found := (c.check []).answer (fun _ => .blank) (fun _ => ⟨"", []⟩)
    found.map (·.path) =
        ["for_all[0].for_all[0].visible", "for_all[0].for_all[1].visible",
          "for_all[1].for_all[0].visible", "for_all[1].for_all[1].visible"] ∧
      (∀ v ∈ found, Rooted "for_all" v.path) ∧
      (∀ v ∈ found, ∃ is within leaf u, Leads (fun _ => ⟨"", []⟩) [] c is within leaf ∧
        leaf.isEveryOf = false ∧
        u ∈ (leaf.check within).answer (fun _ => .blank) (fun _ => ⟨"", []⟩) ∧
        v = u.behind is) := by
  intro items inner c found
  have hpaths := path_of_violation (fun _ => .blank) (fun _ => ⟨"", []⟩) []
  refine ⟨by decide +kernel, hpaths.1 c rfl, ?_⟩
  intro v hv
  exact (hpaths.2.2.1 c v).1 hv

end Constraint
end LayoutAudit
