import LayoutAudit.Proofs.Evaluation.Direct

/-!
# Proofs.Scope.Sharing — one instance for each reference

However many lookups lie between two lookups of a reference, both give the same instance, and
lookups of different references give different ones.

* `Spec.elementIn_of_entries`, `Spec.groupIn_of_entries` — what references stand for, said of the
  entries of a store;
* `Scope.Lookup`, `Scope.after` — lookups in any order;
* `Scope.coherent_after`, `Scope.extends_after` — what holds after them;
* `Scope.evaluation_unaffected_by_sharing` — reports do not depend on what is shared, and what is
  shared does not depend on the order of lookups.
-/

namespace LayoutAudit

/-! ## What is stored

A store is sorted by key, and so no key has two entries. -/

namespace Store

variable {store : Store} {key : String} {found : List Element}

theorem get_of_mem (hnodup : (store.entries.map Prod.fst).Nodup)
    (hentry : (key, found) ∈ store.entries) : store.get key = found := by
  rcases List.append_of_mem hentry with ⟨before, after, hsplit⟩
  -- No entry in front of this one has its key.
  have hfresh : ∀ m ∈ before, key ≠ m.1 := by
    intro m hm hkey
    rw [hsplit, List.map_append, List.nodup_append] at hnodup
    exact hnodup.2.2 m.1 (List.mem_map_of_mem hm) key (by simp) hkey.symm
  have hlookup : store.entries.lookup key = some found :=
    List.lookup_eq_some_iff.2 ⟨before, after, hsplit, by simpa using hfresh⟩
  rw [get, hlookup]
  rfl

theorem get_of_empty (hnodup : (store.entries.map Prod.fst).Nodup)
    (hempty : ∀ found, (key, found) ∈ store.entries → found = []) : store.get key = [] := by
  by_cases hkey : ∃ found, (key, found) ∈ store.entries
  · rcases hkey with ⟨found, hentry⟩
    rw [get_of_mem hnodup hentry, hempty found hentry]
  · have hlookup : store.entries.lookup key = none := by
      refine List.lookup_eq_none_iff.2 fun m hm => ?_
      have hother : key ≠ m.1 := by
        rintro rfl
        exact hkey ⟨m.2, hm⟩
      simpa using hother
    rw [get, hlookup]
    rfl

end Store

namespace Spec

variable {m : Measurement}

/-- A reference to an element stands for a frame, or for the first of the elements that are stored
under its key; if none are, a stand-in carries the label of the reference. -/
theorem elementIn_of_entries (spec : Spec) (hnodup : (m.store.entries.map Prod.fst).Nodup)
    (ref : ElementRef) :
    (ref.key = viewKey → spec.elementIn m ref = m.view) ∧
    (ref.key = canvasKey → spec.elementIn m ref = m.canvas) ∧
    (ref.key ≠ viewKey → ref.key ≠ canvasKey →
      (∀ first rest, (ref.key, first :: rest) ∈ m.store.entries →
        spec.elementIn m ref = first) ∧
      ((∀ found, (ref.key, found) ∈ m.store.entries → found = []) →
        spec.elementIn m ref = .missing (spec.label ref.key))) := by
  refine ⟨fun hview => by rw [elementIn, if_pos hview], fun hcanvas => ?_, ?_⟩
  · have hview : ref.key ≠ viewKey := fun h => Scope.canvasKey_ne_viewKey (hcanvas.symm.trans h)
    rw [elementIn, if_neg hview, if_pos hcanvas]
  · intro hview hcanvas
    rw [elementIn, if_neg hview, if_neg hcanvas]
    constructor
    · intro first rest hentry
      rw [Store.get_of_mem hnodup hentry]
      rfl
    · intro hempty
      rw [Store.get_of_empty hnodup hempty]
      rfl

/-- A reference to a group stands for the frame that was asked for, or for all elements that are
stored under its key, in order. -/
theorem groupIn_of_entries (spec : Spec) (hnodup : (m.store.entries.map Prod.fst).Nodup)
    (ref : GroupRef) :
    (spec.selector? ref.key = some .view → spec.groupIn m ref = ⟨"view", [m.view]⟩) ∧
    (spec.selector? ref.key = some .canvas → spec.groupIn m ref = ⟨"canvas", [m.canvas]⟩) ∧
    (spec.selector? ref.key ≠ some .view → spec.selector? ref.key ≠ some .canvas →
      (∀ found, (ref.key, found) ∈ m.store.entries →
        spec.groupIn m ref = ⟨spec.label ref.key, found⟩) ∧
      ((∀ found, (ref.key, found) ∈ m.store.entries → found = []) →
        spec.groupIn m ref = ⟨spec.label ref.key, []⟩)) := by
  refine ⟨fun hview => by rw [groupIn, hview], fun hcanvas => by rw [groupIn, hcanvas], ?_⟩
  intro hview hcanvas
  have hstored : spec.groupIn m ref = ⟨spec.label ref.key, m.store.get ref.key⟩ := by
    unfold groupIn
    split
    · exact absurd ‹_› hview
    · exact absurd ‹_› hcanvas
    · rfl
  rw [hstored]
  constructor
  · intro found hentry
    rw [Store.get_of_mem hnodup hentry]
  · intro hempty
    rw [Store.get_of_empty hnodup hempty]

end Spec

namespace Scope

variable {spec : Spec} {m : Measurement} {s t : Scope}

inductive Lookup where
  | element (ref : ElementRef)
  | group (ref : GroupRef)

def lookUp (s : Scope) : Lookup → Scope
  | .element ref => (s.element ref).2
  | .group ref => (s.group ref).2

def after (s : Scope) (lookups : List Lookup) : Scope := lookups.foldl lookUp s

/-! ## Any number of lookups -/

theorem coherent_lookUp (hs : s.Coherent spec m) (l : Lookup) : (s.lookUp l).Coherent spec m := by
  cases l with
  | element ref => exact (hs.after_element ref).1
  | group ref => exact (hs.after_group ref).1

theorem extends_lookUp (hs : s.Coherent spec m) (l : Lookup) : s.Extends (s.lookUp l) := by
  cases l with
  | element ref => exact (hs.after_element ref).2.1
  | group ref => exact (hs.after_group ref).2.1

theorem coherent_after (hs : s.Coherent spec m) (lookups : List Lookup) :
    (s.after lookups).Coherent spec m := by
  induction lookups generalizing s with
  | nil => exact hs
  | cons l rest ih => exact ih (coherent_lookUp hs l)

theorem extends_after (hs : s.Coherent spec m) (lookups : List Lookup) :
    s.Extends (s.after lookups) := by
  induction lookups generalizing s with
  | nil => exact Extends.refl s
  | cons l rest ih => exact (extends_lookUp hs l).trans (ih (coherent_lookUp hs l))

/-! ## Two lookups -/

/-- An element that is looked up again is the same instance, and no other element is. -/
theorem element_again (hs : s.Coherent spec m) (ref ref' : ElementRef) (between : List Lookup) :
    let first := s.element ref
    let second := (first.2.after between).element ref'
    (ref'.key = ref.key → second.1 = first.1) ∧
      (second.1.number = first.1.number → ref'.key = ref.key) := by
  intro first second
  -- The first instance is still remembered when the second lookup comes.
  rcases hs.after_element ref with ⟨hfirst, -, hknown⟩
  have hbetween := coherent_after hfirst between
  have hstill : (first.2.after between).knownElement ref = some first.1 :=
    (extends_after hfirst between).element hknown
  rcases hbetween.after_element ref' with ⟨hsecond, hextends, hknown'⟩
  constructor
  · intro hkey
    have href : ref' = ref := congrArg ElementRef.mk hkey
    have hsame : second = (first.1, first.2.after between) := by
      simpa [second, href] using element_of_known hstill
    rw [hsame]
  · intro hnumber
    exact hsecond.element_inj hknown' (hextends.element hstill) hnumber

/-- A group that is looked up again is the same instance, and no other group is. -/
theorem group_again (hs : s.Coherent spec m) (ref ref' : GroupRef) (between : List Lookup) :
    let first := s.group ref
    let second := (first.2.after between).group ref'
    (ref'.key = ref.key → second.1 = first.1) ∧
      (second.1.number = first.1.number → ref'.key = ref.key) := by
  intro first second
  rcases hs.after_group ref with ⟨hfirst, -, hknown⟩
  have hbetween := coherent_after hfirst between
  have hstill : (first.2.after between).knownGroup ref = some first.1 :=
    (extends_after hfirst between).group hknown
  rcases hbetween.after_group ref' with ⟨hsecond, hextends, hknown'⟩
  constructor
  · intro hkey
    have href : ref' = ref := congrArg GroupRef.mk hkey
    have hsame : second = (first.1, first.2.after between) := by
      simpa [second, href] using group_of_known hstill
    rw [hsame]
  · intro hnumber
    exact hsecond.group_inj hknown' (hextends.group hstill) hnumber

/-- The group of a frame holds the instance that the frame has had from the start. -/
theorem items_of_frame (hs : s.Coherent spec m) (ref : GroupRef) :
    (spec.selector? ref.key = some .view → (s.group ref).1.value.items = [⟨0, m.view⟩]) ∧
      (spec.selector? ref.key = some .canvas →
        (s.group ref).1.value.items = [⟨1, m.canvas⟩]) := by
  rcases hs.after_group ref with ⟨hafter, -, hknown⟩
  rcases hafter.group_value hknown with ⟨first, hvalue⟩
  constructor
  · intro hview
    rw [hvalue, sharedGroup, hafter.spec_eq, hview, hafter.view_eq]
  · intro hcanvas
    rw [hvalue, sharedGroup, hafter.spec_eq, hcanvas, hafter.canvas_eq]

/-! ## Sharing cannot be seen in a report -/

/-- A report is what its constraints report one by one when every reference is resolved anew, to
what `Spec.elementIn_of_entries` and `Spec.groupIn_of_entries` say of the entries of the store.
Within one scope, whatever else is looked up before and in between, two lookups give the same
instance exactly if they are lookups of the same key, and the group of a frame holds the instance
of that frame. -/
theorem evaluation_unaffected_by_sharing (spec : Spec) (m : Measurement) :
    (∀ o : Occasion, (spec.evaluate m o).violations =
      (spec.constraintsIn m (o.context m)).flatMap (spec.violationsOf m)) ∧
    (∀ (before between : List Lookup) (ref ref' : ElementRef),
      let first := ((start spec m).after before).element ref
      let second := (first.2.after between).element ref'
      (ref'.key = ref.key → second.1 = first.1) ∧
        (second.1.number = first.1.number → ref'.key = ref.key)) ∧
    (∀ (before between : List Lookup) (ref ref' : GroupRef),
      let first := ((start spec m).after before).group ref
      let second := (first.2.after between).group ref'
      (ref'.key = ref.key → second.1 = first.1) ∧
        (second.1.number = first.1.number → ref'.key = ref.key)) ∧
    (∀ (before : List Lookup) (ref : GroupRef),
      let s := (start spec m).after before
      s.view = (start spec m).view ∧ s.canvas = (start spec m).canvas ∧
        (spec.selector? ref.key = some .view → (s.group ref).1.value.items = [s.view]) ∧
        (spec.selector? ref.key = some .canvas → (s.group ref).1.value.items = [s.canvas])) := by
  -- Every scope that lookups lead to is coherent, and that is all that is needed of it.
  have hafter (before : List Lookup) : ((start spec m).after before).Coherent spec m :=
    coherent_after (coherent_start spec m) before
  refine ⟨spec.violations_evaluate m, ?_, ?_, ?_⟩
  · intro before between ref ref'
    exact element_again (hafter before) ref ref' between
  · intro before between ref ref'
    exact group_again (hafter before) ref ref' between
  · intro before ref
    have hframes := items_of_frame (hafter before) ref
    simp only [(hafter before).view_eq, (hafter before).canvas_eq]
    exact ⟨rfl, rfl, hframes⟩

end Scope
end LayoutAudit
