import LayoutAudit.Proofs.Constraint.Meaning
import LayoutAudit.Proofs.Constraint.Nearness
import LayoutAudit.Proofs.Wire.Report

/-!
# Proofs.Constraint.Evidence — what statements about groups tell of the elements

A statement about the elements of a group hands on what the constraints of each element report.  All
elements are accounted for by a statement about every one, and by a statement about some that fails;
a statement about none that fails names the first element that it should not have found.

* `Violation.evidence` — a violation as details hold it;
* `Violation.decode_evidence` — nothing of it is lost there;
* `Constraint.untilClean_split` — where a search among the elements stops;
* `Constraint.evidence_is_complete` — what the three statements report, in any scope.
-/

namespace LayoutAudit

open Json (Value)
open Json.Value (SortedByName)
open Wire (Node)

/-! ## Violations among details -/

theorem orderlyItems_eq_map (items : List Value) : orderlyItems items = items.map orderly := by
  induction items with
  | nil => rfl
  | cons v rest ih => rw [orderlyItems, ih, List.map_cons]

/-- Putting an object in order, given what the order of its names is. -/
theorem orderly_object (names : List String) {members entries : List (String × Value)}
    (hperm : members.Perm entries) (hnames : entries.map Prod.fst = names)
    (hsorted : names.Pairwise (· < ·)) :
    orderly (.object members) = .object (entries.map fun m => (m.1, orderly m.2)) := by
  subst hnames
  have hentries : SortedByName (entries.map fun m => (m.1, orderly m.2)) :=
    List.pairwise_map.2 (List.pairwise_map.1 hsorted)
  rw [orderly, orderlyMembers_eq_map, Value.sorted_eq_of_perm hentries (hperm.map _)]

/-- What is held in order already is left as it is. -/
theorem Json.Value.Orderly.orderly_eq {v : Value} (h : v.Orderly) : orderly v = v := by
  induction h with
  | null => rfl
  | bool b => rfl
  | number n => rfl
  | string s => rfl
  | @array items _ ih =>
      have hitems : items.map orderly = items :=
        (List.map_congr_left ih).trans (List.map_id items)
      rw [orderly, orderlyItems_eq_map, hitems]
  | @object members hsorted _ ih =>
      have hmembers : members.map (fun m => (m.1, orderly m.2)) = members := by
        conv_rhs => rw [← List.map_id members]
        exact List.map_congr_left fun m hm => Prod.ext rfl (ih m hm)
      rw [orderly_object _ (List.Perm.refl members) rfl (List.pairwise_map.2 hsorted), hmembers]

namespace Violation

theorem map_path_under (outer : String) (found : List Violation) :
    (found.map (under outer)).map (·.path) =
      (found.map (·.path)).map fun path => outer ++ "." ++ path := by
  rw [List.map_map, List.map_map]
  rfl

/-- A violation as the details of another one hold it: its wire form, with sorted members. -/
def evidence (v : Violation) : Value :=
  .object ([("constraint", .string v.path)] ++
    (match v.details with
    | some details => [("details", orderly details)]
    | none => []) ++
    [("message", .string v.message)])

theorem orderly_encode (v : Violation) : orderly v.encode = v.evidence := by
  rcases v with ⟨path, message, details⟩
  cases details with
  | none => exact orderly_object ["constraint", "message"] (List.Perm.refl _) rfl (by decide)
  | some details =>
      exact orderly_object ["constraint", "details", "message"] ((List.Perm.swap _ _ []).cons _) rfl
        (by decide)

/-- A violation is read back from where it is held, if its own details are in order.  Details that
are `null` count as absent. -/
theorem decode_evidence {v : Violation} (h : v.IsOrderly) :
    decode (.ofValue v.evidence) = .ok v.withoutNull := by
  apply encode_readsAs h
  rcases v with ⟨path, message, details⟩
  cases details with
  | none => exact .refl _
  | some details =>
      have hdetails : orderly details = details := (h details rfl).orderly_eq
      simp only [encode, evidence, hdetails]
      exact .object rfl (Value.same_members _) ((List.Perm.swap _ _ []).cons _)

end Violation

namespace Constraint

/-! ## Searching the elements -/

/-- A search goes past the elements with which something is wrong, and stops at the next one. -/
theorem untilClean_split (find : ElementRef → Element) (findAll : GroupRef → Group)
    (check : Element → Query (List Violation)) (es : List Element) :
    ∃ before rest, es = before ++ rest ∧
      (∀ e ∈ before, (check e).answer find findAll ≠ []) ∧
      (∀ e ∈ rest.head?, (check e).answer find findAll = []) ∧
      (untilClean check es).answer find findAll =
        (before.map fun e => (e, (check e).answer find findAll), rest.head?) := by
  induction es with
  | nil => exact ⟨[], [], rfl, by simp, by simp, rfl⟩
  | cons e rest ih =>
      by_cases hclean : (check e).answer find findAll = []
      · exact ⟨[], e :: rest, rfl, by simp, by simpa using hclean, by simp [untilClean, hclean]⟩
      · rcases ih with ⟨before, after, rfl, hbefore, hafter, hanswer⟩
        refine ⟨e :: before, after, rfl, ?_, hafter, by simp [untilClean, hclean, hanswer]⟩
        exact List.forall_mem_cons.2 ⟨hclean, hbefore⟩

theorem details_nowhere (g : Group) (found : List (Element × List Violation)) :
    (nowhere g found).details = some (.object [("items", .array (found.zipIdx.map fun ((e, vs), i) =>
      .object [("index", .nat i), ("selector", .string e.selector),
        ("violations", .array (vs.map Violation.evidence))]))]) := by
  have hrecord (e : Element) (vs : List Violation) (i : Nat) :
      orderly (.object [("index", .nat i), ("selector", .string e.selector),
          ("violations", .array (vs.map Violation.encode))]) =
        .object [("index", .nat i), ("selector", .string e.selector),
          ("violations", .array (vs.map Violation.evidence))] := by
    rw [orderly_object ["index", "selector", "violations"] (List.Perm.refl _) rfl (by decide)]
    simp [orderly, orderlyItems_eq_map, Violation.orderly_encode, Value.nat]
  rw [nowhere, Violation.detailed, orderly_object ["items"] (List.Perm.refl _) rfl (by decide),
    List.map_singleton, orderly, orderlyItems_eq_map, List.map_map]
  simp only [Function.comp_def, hrecord]

theorem details_satisfied (g : Group) (i : Nat) (e : Element) :
    (satisfied g i e).details =
      some (.object [("index", .nat i), ("selector", .string e.selector)]) := by
  rw [satisfied, Violation.detailed,
    orderly_object ["index", "selector"] (List.Perm.refl _) rfl (by decide)]
  rfl

/-! ## What the statements report -/

section Statements

variable (find : ElementRef → Element) (findAll : GroupRef → Group) (around : Surroundings)
  (g : GroupOperand) (body : Element → List Constraint)

def alone (e : Element) : List Violation := (checkAll (e :: around) (body e)).answer find findAll

theorem answer_everyOf :
    ((everyOf g body).check around).answer find findAll =
      (g.denotes findAll).items.zipIdx.flatMap fun (e, i) =>
        (alone find findAll around body e).map (Violation.under (Relation.indexed "for_all" i)) := by
  simp only [check, numbered, Query.answer_bind, Query.answer_pure, Query.answer_traverse,
    answer_resolve, List.zipIdx_map, List.flatMap_map]
  rfl

/-- A statement about some element that fails tells of all of them. -/
theorem answer_someOf_of_ne_nil
    (hfails : ((someOf g body).check around).answer find findAll ≠ []) :
    (∀ e ∈ (g.denotes findAll).items, alone find findAll around body e ≠ []) ∧
      ((someOf g body).check around).answer find findAll =
        [nowhere (g.denotes findAll)
          ((g.denotes findAll).items.map fun e => (e, alone find findAll around body e))] := by
  have hnone : ∀ e ∈ (g.denotes findAll).items, alone find findAll around body e ≠ [] := by
    intro e he hclean
    exact hfails ((check_someOf_nil_iff find findAll around g body).2 ⟨e, he, hclean⟩)
  refine ⟨hnone, ?_⟩
  rcases untilClean_split find findAll (fun e => checkAll (e :: around) (body e))
    (g.denotes findAll).items with ⟨before, rest, hitems, -, hrest, hanswer⟩
  cases rest with
  | cons e rest =>
      have he : e ∈ (g.denotes findAll).items := by simp [hitems]
      exact absurd (hrest e rfl) (hnone e he)
  | nil =>
      rw [List.append_nil] at hitems
      simp only [check, Query.answer_bind, Query.answer_pure, answer_resolve, hanswer]
      rw [hitems]
      rfl

/-- A statement about none that fails names the first element with which nothing is wrong. -/
theorem answer_noneOf_of_ne_nil
    (hfails : ((noneOf g body).check around).answer find findAll ≠ []) :
    ∃ i e, (g.denotes findAll).items[i]? = some e ∧ alone find findAll around body e = [] ∧
      (∀ j < i, ∀ e', (g.denotes findAll).items[j]? = some e' →
        alone find findAll around body e' ≠ []) ∧
      ((noneOf g body).check around).answer find findAll =
        [satisfied (g.denotes findAll) i e] := by
  rcases untilClean_split find findAll (fun e => checkAll (e :: around) (body e))
    (g.denotes findAll).items with ⟨before, rest, hitems, hbefore, hrest, hanswer⟩
  have hcheck : ((noneOf g body).check around).answer find findAll =
      (rest.head?.map (satisfied (g.denotes findAll) before.length)).toList := by
    cases rest <;>
      simp only [check, Query.answer_bind, answer_resolve, hanswer, List.head?_nil, List.head?_cons,
        List.length_map, Query.answer_pure, Option.map_none, Option.map_some, Option.toList_none,
        Option.toList_some]
  cases rest with
  | nil => exact absurd hcheck hfails
  | cons e rest =>
      refine ⟨before.length, e, by simp [hitems], hrest e rfl, ?_, hcheck⟩
      intro j hj e' he'
      rw [hitems, List.getElem?_append_left hj] at he'
      exact hbefore e' (List.mem_of_getElem? he')

end Statements

/-- What statements about a group report in a scope, whatever has been looked up in it before, with
`alone e` for what the constraints that are made of `e` report one by one in that scope.

1. A statement about every element hands on what the constraints of each report, in the order of the
   group, and changes nothing of a violation but that it puts the index of the element in front of
   its path.
2. A statement about some element that fails reports one violation, and its details hold a record of
   each element, in the order of the group: its index, its selector and what its constraints report,
   which is not nothing.
3. From such a record the violations can be read back.
4. A statement about none that fails reports one violation, with the least index of an element whose
   constraints report nothing. -/
theorem evidence_is_complete {spec : Spec} {m : Measurement} {s : Scope} (hs : s.Coherent spec m)
    (around : Surroundings) (g : GroupOperand) (body : Element → Bundle) :
    let made (e : Element) : List Constraint := (body e).flatten
    let found (c : Constraint) : List Violation := (Scope.run (c.check around) s).1
    let alone (e : Element) : List Violation :=
      (made e).flatMap fun c => (Scope.run (c.check (e :: around)) s).1
    let items := (Scope.run g.resolve s).1.items
    (found (everyOf g made) = items.zipIdx.flatMap fun (e, i) => (alone e).map fun u =>
      { u with path := Relation.indexed "for_all" i ++ "." ++ u.path }) ∧
    (found (someOf g made) ≠ [] → (∀ e ∈ items, alone e ≠ []) ∧
      ∃ v, found (someOf g made) = [v] ∧ v.path = "exists" ∧
        v.details = some (.object [("items", .array (items.zipIdx.map fun (e, i) =>
          .object [("index", .nat i), ("selector", .string e.selector),
            ("violations", .array ((alone e).map Violation.evidence))]))])) ∧
    (∀ u : Violation, u.IsOrderly →
      Violation.decode (.ofValue u.evidence) = .ok u.withoutNull) ∧
    (found (noneOf g made) ≠ [] → ∃ i e, items[i]? = some e ∧ alone e = [] ∧
      (∀ j < i, ∀ e', items[j]? = some e' → alone e' ≠ []) ∧
      ∃ v, found (noneOf g made) = [v] ∧ v.path = Relation.indexed "none" i ∧
        v.details = some (.object [("index", .nat i), ("selector", .string e.selector)])) := by
  intro made found alone items
  -- In a coherent scope everything is answered as if it were looked up anew.
  have hfound (c : Constraint) :
      found c = (c.check around).answer (spec.elementIn m) (spec.groupIn m) := hs.run _
  have halone : alone = Constraint.alone (spec.elementIn m) (spec.groupIn m) around made := by
    funext e
    simp only [alone, Constraint.alone, answer_checkAll, hs.run]
  have hitems : items = (g.denotes (spec.groupIn m)).items := by
    simp only [items, hs.run, answer_resolve]
  rw [halone, hitems]
  simp only [hfound]
  refine ⟨answer_everyOf _ _ around g made, ?_, fun u => Violation.decode_evidence, ?_⟩
  · intro hfails
    rcases answer_someOf_of_ne_nil _ _ around g made hfails with ⟨hnone, hreport⟩
    refine ⟨hnone, _, hreport, rfl, ?_⟩
    rw [details_nowhere, List.zipIdx_map, List.map_map]
    rfl
  · intro hfails
    rcases answer_noneOf_of_ne_nil _ _ around g made hfails with
      ⟨i, e, he, hclean, hleast, hreport⟩
    exact ⟨i, e, he, hclean, hleast, _, hreport, rfl, details_satisfied _ i e⟩

/-- Two items, one that is not there and one that is hidden: none is visible, and the second one is
there. -/
theorem evidence_of_two_items :
    let hidden : Element := { Element.shownAt "li" .zero with visible := false }
    let items : List Element := [.missing "li", hidden]
    let spec : Spec := ⟨[], [], [], []⟩
    let m : Measurement := ⟨.empty, .blank, .blank⟩
    let found (c : Constraint) : List Violation := (Scope.run (c.check []) (Scope.start spec m)).1
    let asked (flag : Flag) (e : Element) : Bundle := .one (flagged (.element e) flag)
    let visible := someOf (.group ⟨"li", items⟩) fun e => (asked .visible e).flatten
    let present := noneOf (.group ⟨"li", items⟩) fun e => (asked .present e).flatten
    (Scope.start spec m).Coherent spec m ∧
      (found visible ≠ [] ∧ ∃ v records, found visible = [v] ∧
        v.details = some (.object [("items", .array records)]) ∧ records.length = 2) ∧
      (found present ≠ [] ∧ (found present).map (·.path) = ["none[1]"] ∧
        ∃ i e v, items[i]? = some e ∧ found present = [v] ∧ v.path = Relation.indexed "none" i ∧
          v.details = some (.object [("index", .nat i), ("selector", .string e.selector)])) := by
  intro hidden items spec m found asked visible present
  have hs := Scope.coherent_start spec m
  have hvisible : found visible ≠ [] := by
    have hpaths : (found visible).map (·.path) = ["exists"] := by decide +kernel
    intro hnil
    rw [hnil] at hpaths
    cases hpaths
  have hpresent : (found present).map (·.path) = ["none[1]"] := by decide +kernel
  have hfails : found present ≠ [] := by
    intro hnil
    rw [hnil] at hpresent
    cases hpresent
  rcases (evidence_is_complete hs [] (.group ⟨"li", items⟩) (asked .visible)).2.1 hvisible with
    ⟨-, v, hv, -, hdetails⟩
  rcases (evidence_is_complete hs [] (.group ⟨"li", items⟩) (asked .present)).2.2.2 hfails with
    ⟨i, e, he, -, -, w, hw, hpath, hindex⟩
  exact ⟨hs, ⟨hvisible, v, _, hv, hdetails, rfl⟩, hfails, hpresent, i, e, w, he, hw, hpath, hindex⟩

end Constraint
end LayoutAudit
