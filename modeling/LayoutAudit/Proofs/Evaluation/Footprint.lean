import LayoutAudit.Proofs.Constraint.References
import LayoutAudit.Proofs.Evaluation.Direct
import LayoutAudit.Proofs.Spec.Calls
import Mathlib.Data.List.Basic

/-!
# Proofs.Evaluation.Footprint — what of a store a report depends on

A reference to an element asks a store for the first match under its key, and a reference to a group
for all matches.  A spec that refers only to what it declared sees nothing else of a store, so that
measuring what it declares is enough.

* `Spec.RefersToOwn` — all references of a spec were handed out by its session;
* `Spec.Agree` — two stores that show a spec the same;
* `Store.restrict` — of a store, what the listed declarations ask for;
* `Spec.evaluate_eq_of_agree` — reports on stores that agree are equal.
-/

namespace LayoutAudit

open Json (Value)

/-! ## What the listed declarations ask for -/

def Json.Value.key? (d : Value) : Option String :=
  match d.member? "key" with
  | some (.string key) => some key
  | _ => none

def Json.Value.listedKeys (input : Value) (list : String) : List String :=
  match input.member? list with
  | some (.array ds) => ds.filterMap key?
  | _ => []

/-- Of a store the keys that are listed: the first match of each element, and each whole group. -/
def Store.restrict (full : Store) (input : Value) : Store :=
  ⟨Value.sorted
    ((input.listedKeys "elements").map (fun key => (key, (full.get key).take 1)) ++
      (input.listedKeys "groups").map fun key => (key, full.get key))⟩

namespace Json.Value

variable {α : Type}

theorem lookup_cons (key : String) (m : String × α) (ms : List (String × α)) :
    (m :: ms).lookup key = if key = m.1 then some m.2 else ms.lookup key := by
  by_cases hkey : key = m.1
  · rw [if_pos hkey, hkey, List.lookup_cons_self]
  · have hbeq : (key == m.1) = false := by simpa using hkey
    rw [if_neg hkey, List.lookup_cons, hbeq]

theorem lookup_insertMember (name key : String) (v : α) (ms : List (String × α)) :
    (insertMember name v ms).lookup key = if key = name then some v else ms.lookup key := by
  induction ms with
  | nil => simp [insertMember, lookup_cons]
  | cons m rest ih =>
      -- The member goes in front of the first one, in its place or behind it.
      by_cases hlt : name < m.1
      · simp [insertMember, hlt, lookup_cons]
      · by_cases heq : name = m.1
        · by_cases hkey : key = m.1 <;> simp [insertMember, heq, hkey, lookup_cons]
        · by_cases hkey : key = m.1
          · simp [insertMember, hlt, heq, hkey, lookup_cons, Ne.symm heq]
          · simp [insertMember, hlt, heq, hkey, lookup_cons, ih]

/-- Of several members of one name the last is kept. -/
theorem lookup_sorted (ms : List (String × α)) (key : String) :
    (sorted ms).lookup key = ms.reverse.lookup key := by
  have hfold (acc : List (String × α)) :
      (ms.foldl (fun acc m => insertMember m.1 m.2 acc) acc).lookup key =
        (ms.reverse.lookup key).or (acc.lookup key) := by
    induction ms generalizing acc with
    | nil => simp
    | cons m rest ih =>
        rw [List.foldl_cons, ih, lookup_insertMember, List.reverse_cons, List.lookup_append,
          lookup_cons, List.lookup_nil, Option.or_assoc]
        by_cases hkey : key = m.1 <;> simp [hkey]
  simpa [sorted] using hfold []

theorem lookup_map_keys (f : String → α) (keys : List String) (key : String) :
    (keys.map fun k => (k, f k)).lookup key = if key ∈ keys then some (f key) else none := by
  induction keys with
  | nil => simp
  | cons k rest ih =>
      rw [List.map_cons, lookup_cons, ih]
      by_cases hkey : key = k <;> simp [hkey]

theorem listedKeys_measureInput (s : Spec) :
    s.measureInput.listedKeys "elements" = s.elements.map (·.key) ∧
      s.measureInput.listedKeys "groups" = s.groups.map (·.key) := by
  have hkeys (ds : List Declaration) :
      (ds.map Declaration.encode).filterMap key? = ds.map (·.key) := by
    simp [List.filterMap_map, Function.comp_def, Declaration.encode, key?, member?]
  exact ⟨hkeys s.elements, hkeys s.groups⟩

end Json.Value

namespace Store

/-- What is found in the restriction of a store. -/
theorem get_restrict (full : Store) (input : Value) (key : String) :
    (full.restrict input).get key =
      if key ∈ input.listedKeys "groups" then full.get key
      else if key ∈ input.listedKeys "elements" then (full.get key).take 1
      else [] := by
  have hlookup : (full.restrict input).entries.lookup key =
      (if key ∈ input.listedKeys "groups" then some (full.get key) else none).or
        (if key ∈ input.listedKeys "elements" then some ((full.get key).take 1) else none) := by
    simp only [restrict, Value.lookup_sorted, List.reverse_append, ← List.map_reverse,
      List.lookup_append, Value.lookup_map_keys, List.mem_reverse]
  rw [get, hlookup]
  split_ifs <;> rfl

end Store

namespace Spec

/-! ## References of a spec -/

/-- The keys of the references to one element that a session hands out. -/
def elementKeys (s : Spec) : List String := viewKey :: canvasKey :: s.elements.map (·.key)

/-- The keys of the references to groups that a session hands out. -/
def groupKeys (s : Spec) : List String := (s.groups ++ s.frameGroups).map (·.key)

/-- All references were handed out by the session: those that the factories look up, and those of
the constraints that they register, whatever their lookups answer. -/
structure RefersToOwn (s : Spec) : Prop where
  lookups {factory : Factory} : factory ∈ s.factories →
    ∀ context, (factory context).RefersWithin s.elementKeys s.groupKeys
  constraints {factory : Factory} : factory ∈ s.factories →
    ∀ context find findAll, ∀ c ∈ ((factory context).answer find findAll).flatten,
      c.Within s.elementKeys s.groupKeys

/-- Two stores show the same of what a spec declares: the first match of each element, and all
matches of each group. -/
structure Agree (s : Spec) (store store' : Store) : Prop where
  first {d : Declaration} : d ∈ s.elements → (store.get d.key).head? = (store'.get d.key).head?
  whole {d : Declaration} : d ∈ s.groups → store.get d.key = store'.get d.key

variable {s : Spec} {store store' : Store} {view canvas : Element}

/-- A frame is not looked for in the store; of any other element the first match is. -/
theorem Agree.elementIn_eq (h : s.Agree store store') (ref : ElementRef)
    (href : ref.key ∈ s.elementKeys) :
    s.elementIn ⟨store, view, canvas⟩ ref = s.elementIn ⟨store', view, canvas⟩ ref := by
  by_cases hview : ref.key = viewKey
  · simp [elementIn, hview]
  · by_cases hcanvas : ref.key = canvasKey
    · simp [elementIn, hcanvas]
    · have hdeclared : ref.key ∈ s.elements.map (·.key) := by
        simpa [elementKeys, hview, hcanvas] using href
      rcases List.mem_map.1 hdeclared with ⟨d, hd, hkey⟩
      have hfirst := h.first hd
      rw [hkey] at hfirst
      simp [elementIn, hview, hcanvas, hfirst]

/-- A group that holds a frame is not looked for in the store either. -/
theorem Agree.groupIn_eq {calls : List Call} (h : (ofCalls calls).Agree store store')
    (ref : GroupRef) (href : ref.key ∈ (ofCalls calls).groupKeys) :
    (ofCalls calls).groupIn ⟨store, view, canvas⟩ ref =
      (ofCalls calls).groupIn ⟨store', view, canvas⟩ ref := by
  rcases List.mem_map.1 href with ⟨d, hd, hkey⟩
  rcases List.mem_append.1 hd with hgroup | hframe
  · have hwhole := h.whole hgroup
    rw [hkey] at hwhole
    simp only [groupIn, hwhole]
  · rcases selector?_frameGroup calls hframe with hview | hcanvas
    · rw [hkey] at hview
      simp only [groupIn, hview]
    · rw [hkey] at hcanvas
      simp only [groupIn, hcanvas]

/-! ## Reports -/

theorem Agree.evaluate_eq {calls : List Call} (h : (ofCalls calls).Agree store store')
    (hown : (ofCalls calls).RefersToOwn) (o : Occasion) :
    (ofCalls calls).evaluate ⟨store, view, canvas⟩ o =
      (ofCalls calls).evaluate ⟨store', view, canvas⟩ o := by
  set s := ofCalls calls
  have hanswer {α : Type} {q : Query α} (hq : q.RefersWithin s.elementKeys s.groupKeys) :
      q.answer (s.elementIn ⟨store, view, canvas⟩) (s.groupIn ⟨store, view, canvas⟩) =
        q.answer (s.elementIn ⟨store', view, canvas⟩) (s.groupIn ⟨store', view, canvas⟩) :=
    hq.answer_eq h.elementIn_eq h.groupIn_eq
  -- The factories register the same constraints, and the same is wrong with each of them.
  have hconstraints (context : Context) :
      s.constraintsIn ⟨store, view, canvas⟩ context =
        s.constraintsIn ⟨store', view, canvas⟩ context := by
    refine List.flatMap_congr fun factory hfactory => ?_
    rw [hanswer (hown.lookups hfactory context)]
  have hviolations (context : Context) (c : Constraint)
      (hc : c ∈ s.constraintsIn ⟨store', view, canvas⟩ context) :
      s.violationsOf ⟨store, view, canvas⟩ c = s.violationsOf ⟨store', view, canvas⟩ c := by
    rcases List.mem_flatMap.1 hc with ⟨factory, hfactory, hmem⟩
    exact hanswer (Constraint.check_refersWithin [] c
      (hown.constraints hfactory context _ _ c hmem))
  have hfound : (s.evaluate ⟨store, view, canvas⟩ o).violations =
      (s.evaluate ⟨store', view, canvas⟩ o).violations := by
    -- The context of an evaluation depends on the view, and not on the store.
    have hcontext : o.context ⟨store, view, canvas⟩ = o.context ⟨store', view, canvas⟩ := rfl
    rw [violations_evaluate, violations_evaluate, hcontext, hconstraints]
    exact List.flatMap_congr fun c hc => hviolations _ c hc
  exact congrArg (o.context ⟨store, view, canvas⟩).report hfound

theorem agree_restrict (calls : List Call) (store : Store) :
    (ofCalls calls).Agree (store.restrict (ofCalls calls).measureInput) store where
  first := by
    intro d hd
    have hgroup : d.key ∉ (ofCalls calls).groups.map (·.key) := by
      intro hmem
      rcases List.mem_map.1 hmem with ⟨d', hd', hkey⟩
      exact key_ne_of_element_of_group calls hd hd' hkey.symm
    have helement : d.key ∈ (ofCalls calls).elements.map (·.key) := List.mem_map_of_mem hd
    have hlisted := Value.listedKeys_measureInput (ofCalls calls)
    rw [Store.get_restrict, hlisted.1, hlisted.2, if_neg hgroup, if_pos helement,
      List.head?_take]
    simp
  whole := by
    intro d hd
    have hgroup : d.key ∈ (ofCalls calls).groups.map (·.key) := List.mem_map_of_mem hd
    rw [Store.get_restrict, (Value.listedKeys_measureInput (ofCalls calls)).2, if_pos hgroup]

/-- A spec that refers only to what its session handed out reports the same, in every word, on
stores that agree on the first match of each element and on all matches of each group that are to
be measured, whatever else they hold.  The restriction of a store to what is to be measured is such
a store. -/
theorem evaluate_eq_of_agree (calls : List Call) (hown : (ofCalls calls).RefersToOwn) :
    (∀ (store store' : Store) (view canvas : Element) (o : Occasion),
      (ofCalls calls).Agree store store' →
        (ofCalls calls).evaluate ⟨store, view, canvas⟩ o =
          (ofCalls calls).evaluate ⟨store', view, canvas⟩ o) ∧
    (∀ (store : Store) (view canvas : Element) (o : Occasion),
      (ofCalls calls).evaluate ⟨store.restrict (ofCalls calls).measureInput, view, canvas⟩ o =
        (ofCalls calls).evaluate ⟨store, view, canvas⟩ o) := by
  constructor
  · intro store store' view canvas o hagree
    exact hagree.evaluate_eq hown o
  · intro store view canvas o
    exact (agree_restrict calls store).evaluate_eq hown o

/-- Calls that declare an element, a group and the group of a frame, and refer to all three. -/
def sampleCalls : List Call :=
  [.element (.css "header"), .group (.css "a"), .group .view,
    .must (.many [.flagged (.declared ⟨"el-1"⟩) .visible,
      .forAll (.declared ⟨"group-2"⟩) [.overlaps (.enclosing 0) (.declared .view)]]),
    .mustRef fun _ => do
      let frames ← Query.findAll ⟨"group-3"⟩
      return .one (.counts (.group frames) .visible (.atLeast 1.0))]

theorem sampleCalls_refersToOwn : (ofCalls sampleCalls).RefersToOwn where
  lookups := by
    intro factory hfactory context
    have hfactories : (ofCalls sampleCalls).factories = [_, _] := rfl
    rw [hfactories, List.mem_pair] at hfactory
    rcases hfactory with rfl | rfl
    · exact .done _
    · exact .group _ _ (by decide) fun _ => .done _
  constraints := by
    intro factory hfactory context find findAll c hc
    have hfactories : (ofCalls sampleCalls).factories = [_, _] := rfl
    rw [hfactories, List.mem_pair] at hfactory
    rcases hfactory with rfl | rfl
    · rcases List.mem_pair.1 hc with rfl | rfl
      · exact (by decide : "el-1" ∈ (ofCalls sampleCalls).elementKeys)
      · exact ⟨by decide, fun _ => ⟨⟨trivial, by decide⟩, trivial⟩⟩
    · rw [List.mem_singleton.1 hc]
      trivial

/-- The full store has a second header, a key that was never declared, and entries for the frames;
nothing of that is seen. -/
theorem evaluate_sample_stores :
    let header : Element := .shownAt "header" ⟨0.0, 0.0, 800.0, 60.0⟩
    let link : Element := .shownAt "a" ⟨10.0, 10.0, 40.0, 20.0⟩
    let view : Element := .shownAt "view" ⟨0.0, 0.0, 800.0, 600.0⟩
    let canvas : Element := .shownAt "canvas" ⟨0.0, 0.0, 800.0, 1200.0⟩
    let full : Store := ⟨[("$view", [link]), ("el-1", [header, link]), ("group-2", [link, header]),
      ("group-3", []), ("other", [header])]⟩
    let short : Store := ⟨[("el-1", [header]), ("group-2", [link, header])]⟩
    (ofCalls sampleCalls).RefersToOwn ∧ (ofCalls sampleCalls).Agree full short ∧
      (ofCalls sampleCalls).evaluate ⟨full, view, canvas⟩ .unnamed =
        (ofCalls sampleCalls).evaluate ⟨short, view, canvas⟩ .unnamed ∧
      (ofCalls sampleCalls).evaluate
          ⟨full.restrict (ofCalls sampleCalls).measureInput, view, canvas⟩ .unnamed =
        (ofCalls sampleCalls).evaluate ⟨full, view, canvas⟩ .unnamed := by
  intro header link view canvas full short
  have hagree : (ofCalls sampleCalls).Agree full short := by
    constructor
    · intro d hd
      rw [List.mem_singleton.1 hd]
      rfl
    · intro d hd
      rw [List.mem_singleton.1 hd]
      rfl
  have hreports := evaluate_eq_of_agree sampleCalls sampleCalls_refersToOwn
  exact ⟨sampleCalls_refersToOwn, hagree, hreports.1 full short view canvas .unnamed hagree,
    hreports.2 full view canvas .unnamed⟩

end Spec
end LayoutAudit
