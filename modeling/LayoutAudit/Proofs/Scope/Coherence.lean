import LayoutAudit.Scope
import Mathlib.Tactic.SplitIfs

/-!
# Proofs.Scope.Coherence — a scope answers as if it remembered nothing

What a scope remembers of a reference is what the reference stands for, and a lookup only ever adds
to what is remembered.

* `Scope.knownElement`, `Scope.knownGroup` — what is remembered of a reference;
* `Scope.Coherent` — the invariant of every scope of an evaluation;
* `Scope.Extends` — a later scope has forgotten nothing;
* `Scope.Coherent.after_element`, `Scope.Coherent.after_group` — everything that one lookup does;
* `Scope.Coherent.run` — a query in a coherent scope is answered from the measurement.
-/

namespace LayoutAudit
namespace Scope

variable {spec : Spec} {m : Measurement} {s t u : Scope}

/-! ## What is remembered -/

/-- The instance of an element, if it has one.  The frames have theirs from the start. -/
def knownElement (s : Scope) (ref : ElementRef) : Option (Instance Element) :=
  if ref.key = viewKey then some s.view
  else if ref.key = canvasKey then some s.canvas
  else s.elements.lookup ref.key

/-- The instance of a group, if it has one. -/
def knownGroup (s : Scope) (ref : GroupRef) : Option (Instance SharedGroup) :=
  s.groups.lookup ref.key

/-- The scope in which the next instance has been given to an element. -/
def withElement (s : Scope) (ref : ElementRef) : Scope :=
  { s with
    next := s.next + 1
    elements := (ref.key, ⟨s.next, s.spec.elementIn s.measurement ref⟩) :: s.elements }

/-- The scope in which the next instances have been given to a group and its elements. -/
def withGroup (s : Scope) (ref : GroupRef) : Scope :=
  { s with
    next := s.next + 1 + (s.sharedGroup (s.next + 1) ref).items.length
    groups := (ref.key, ⟨s.next, s.sharedGroup (s.next + 1) ref⟩) :: s.groups }

theorem canvasKey_ne_viewKey : canvasKey ≠ viewKey := by decide

theorem element_of_known {ref : ElementRef} {found : Instance Element}
    (h : s.knownElement ref = some found) : s.element ref = (found, s) := by
  by_cases hview : ref.key = viewKey
  · have hfound : s.view = found := by simpa [knownElement, hview] using h
    simp [Scope.element, hview, hfound]
  · by_cases hcanvas : ref.key = canvasKey
    · have hfound : s.canvas = found := by
        simpa [knownElement, hcanvas, canvasKey_ne_viewKey] using h
      simp [Scope.element, hcanvas, canvasKey_ne_viewKey, hfound]
    · have hlookup : s.elements.lookup ref.key = some found := by
        simpa [knownElement, hview, hcanvas] using h
      simp [Scope.element, hview, hcanvas, hlookup]

/-- A reference without an instance is not that of a frame. -/
theorem not_frame_of_unknown {ref : ElementRef} (h : s.knownElement ref = none) :
    ref.key ≠ viewKey ∧ ref.key ≠ canvasKey := by
  constructor
  · intro hview
    simp [knownElement, hview] at h
  · intro hcanvas
    simp [knownElement, hcanvas, canvasKey_ne_viewKey] at h

theorem element_of_unknown {ref : ElementRef} (h : s.knownElement ref = none) :
    s.element ref = (⟨s.next, s.spec.elementIn s.measurement ref⟩, s.withElement ref) := by
  rcases not_frame_of_unknown h with ⟨hview, hcanvas⟩
  have hlookup : s.elements.lookup ref.key = none := by
    simpa [knownElement, hview, hcanvas] using h
  simp [Scope.element, hview, hcanvas, hlookup, withElement]

theorem group_of_known {ref : GroupRef} {found : Instance SharedGroup}
    (h : s.knownGroup ref = some found) : s.group ref = (found, s) := by
  unfold knownGroup at h
  simp [Scope.group, h]

theorem group_of_unknown {ref : GroupRef} (h : s.knownGroup ref = none) :
    s.group ref = (⟨s.next, s.sharedGroup (s.next + 1) ref⟩, s.withGroup ref) := by
  unfold knownGroup at h
  simp [Scope.group, h, withGroup]

/-- Giving an instance to an element changes what is remembered of its key, and of no other. -/
theorem knownElement_withElement {ref : ElementRef} (h : s.knownElement ref = none)
    (other : ElementRef) :
    (s.withElement ref).knownElement other =
      if other.key = ref.key then some ⟨s.next, s.spec.elementIn s.measurement ref⟩
      else s.knownElement other := by
  by_cases hkey : other.key = ref.key
  · -- The key is not that of a frame, so that the new entry is the one that is found.
    have href : other = ref := congrArg ElementRef.mk hkey
    subst href
    rcases not_frame_of_unknown h with ⟨hview, hcanvas⟩
    simp [knownElement, withElement, hview, hcanvas]
  · have hbeq : (other.key == ref.key) = false := by simpa using hkey
    simp [knownElement, withElement, hkey, List.lookup_cons, hbeq]

/-- Giving an instance to a group changes what is remembered of its key, and of no other. -/
theorem knownGroup_withGroup (ref other : GroupRef) :
    (s.withGroup ref).knownGroup other =
      if other.key = ref.key then some ⟨s.next, s.sharedGroup (s.next + 1) ref⟩
      else s.knownGroup other := by
  by_cases hkey : other.key = ref.key
  · simp [knownGroup, withGroup, hkey]
  · have hbeq : (other.key == ref.key) = false := by simpa using hkey
    simp [knownGroup, withGroup, hkey, List.lookup_cons, hbeq]

@[simp] theorem knownGroup_withElement (ref : ElementRef) (other : GroupRef) :
    (s.withElement ref).knownGroup other = s.knownGroup other := rfl

@[simp] theorem knownElement_withGroup (ref : GroupRef) (other : ElementRef) :
    (s.withGroup ref).knownElement other = s.knownElement other := rfl

/-! ## The invariant -/

/-- What a scope remembers agrees with the measurement, and every instance has a number of its
own. -/
structure Coherent (spec : Spec) (m : Measurement) (s : Scope) : Prop where
  spec_eq : s.spec = spec
  measurement_eq : s.measurement = m
  view_eq : s.view = ⟨0, m.view⟩
  canvas_eq : s.canvas = ⟨1, m.canvas⟩
  two_le_next : 2 ≤ s.next
  element_value {ref : ElementRef} {found : Instance Element} :
    s.knownElement ref = some found → found.value = spec.elementIn m ref
  element_lt {ref : ElementRef} {found : Instance Element} :
    s.knownElement ref = some found → found.number < s.next
  element_inj {ref ref' : ElementRef} {found found' : Instance Element} :
    s.knownElement ref = some found → s.knownElement ref' = some found' →
      found.number = found'.number → ref.key = ref'.key
  group_value {ref : GroupRef} {found : Instance SharedGroup} :
    s.knownGroup ref = some found → ∃ first, found.value = s.sharedGroup first ref
  group_lt {ref : GroupRef} {found : Instance SharedGroup} :
    s.knownGroup ref = some found → found.number < s.next
  group_inj {ref ref' : GroupRef} {found found' : Instance SharedGroup} :
    s.knownGroup ref = some found → s.knownGroup ref' = some found' →
      found.number = found'.number → ref.key = ref'.key

theorem knownElement_start (ref : ElementRef) :
    (start spec m).knownElement ref =
      if ref.key = viewKey then some ⟨0, m.view⟩
      else if ref.key = canvasKey then some ⟨1, m.canvas⟩
      else none := rfl

/-- At the start only the frames are remembered. -/
theorem coherent_start (spec : Spec) (m : Measurement) : (start spec m).Coherent spec m where
  spec_eq := rfl
  measurement_eq := rfl
  view_eq := rfl
  canvas_eq := rfl
  two_le_next := Nat.le_refl 2
  element_value := by
    intro ref found h
    rw [knownElement_start] at h
    by_cases hview : ref.key = viewKey
    · have hfound : ⟨0, m.view⟩ = found := by simpa [hview] using h
      simp [← hfound, Spec.elementIn, hview]
    · by_cases hcanvas : ref.key = canvasKey
      · have hfound : ⟨1, m.canvas⟩ = found := by
          simpa [hcanvas, canvasKey_ne_viewKey] using h
        simp [← hfound, Spec.elementIn, hcanvas, canvasKey_ne_viewKey]
      · simp [hview, hcanvas] at h
  element_lt := by
    intro ref found h
    rw [knownElement_start] at h
    have hnext : (start spec m).next = 2 := rfl
    split_ifs at h <;> cases h <;> simp [hnext]
  element_inj := by
    intro ref ref' found found' h h' hnumber
    rw [knownElement_start] at h h'
    split_ifs at h h' <;> cases h <;> cases h' <;> simp_all
  group_value := by
    intro ref found h
    cases h
  group_lt := by
    intro ref found h
    cases h
  group_inj := by
    intro ref ref' found found' h
    cases h

/-- A later scope remembers all that an earlier one did. -/
structure Extends (s t : Scope) : Prop where
  element {ref : ElementRef} {found : Instance Element} :
    s.knownElement ref = some found → t.knownElement ref = some found
  group {ref : GroupRef} {found : Instance SharedGroup} :
    s.knownGroup ref = some found → t.knownGroup ref = some found

theorem Extends.refl (s : Scope) : s.Extends s where
  element h := h
  group h := h

theorem Extends.trans (hst : s.Extends t) (htu : t.Extends u) : s.Extends u where
  element h := htu.element (hst.element h)
  group h := htu.group (hst.group h)

theorem extends_withElement {ref : ElementRef} (h : s.knownElement ref = none) :
    s.Extends (s.withElement ref) where
  element := by
    intro other found hother
    have hkey : other.key ≠ ref.key := by
      intro hkey
      have hsame : s.knownElement other = s.knownElement ref := by simp [knownElement, hkey]
      rw [hsame, h] at hother
      cases hother
    rw [knownElement_withElement h, if_neg hkey]
    exact hother
  group h := h

theorem extends_withGroup {ref : GroupRef} (h : s.knownGroup ref = none) :
    s.Extends (s.withGroup ref) where
  element h := h
  group := by
    intro other found hother
    have hkey : other.key ≠ ref.key := by
      intro hkey
      have hsame : s.knownGroup other = s.knownGroup ref := by simp [knownGroup, hkey]
      rw [hsame, h] at hother
      cases hother
    rw [knownGroup_withGroup, if_neg hkey]
    exact hother

/-- The instance given to an element is the next one, so no other reference has its number. -/
theorem coherent_withElement (hs : s.Coherent spec m) {ref : ElementRef}
    (h : s.knownElement ref = none) : (s.withElement ref).Coherent spec m where
  spec_eq := hs.spec_eq
  measurement_eq := hs.measurement_eq
  view_eq := hs.view_eq
  canvas_eq := hs.canvas_eq
  two_le_next := Nat.le_succ_of_le hs.two_le_next
  element_value := by
    intro other found hother
    rw [knownElement_withElement h] at hother
    split_ifs at hother with hkey
    · cases hother
      have href : other = ref := congrArg ElementRef.mk hkey
      rw [href, hs.spec_eq, hs.measurement_eq]
    · exact hs.element_value hother
  element_lt := by
    intro other found hother
    rw [knownElement_withElement h] at hother
    split_ifs at hother
    · cases hother
      exact Nat.lt_succ_self s.next
    · exact Nat.lt_succ_of_lt (hs.element_lt hother)
  element_inj := by
    intro a b found found' ha hb hnumber
    rw [knownElement_withElement h] at ha hb
    -- Equal numbers: both references are the new one, or neither is.
    split_ifs at ha hb with hkey hkey' hkey'
    · rw [hkey, hkey']
    · cases ha
      have hlt := hs.element_lt hb
      simp only at hnumber
      omega
    · cases hb
      have hlt := hs.element_lt ha
      simp only at hnumber
      omega
    · exact hs.element_inj ha hb hnumber
  group_value h := hs.group_value h
  group_lt h := Nat.lt_succ_of_lt (hs.group_lt h)
  group_inj h h' := hs.group_inj h h'

theorem coherent_withGroup (hs : s.Coherent spec m) (ref : GroupRef) :
    (s.withGroup ref).Coherent spec m where
  spec_eq := hs.spec_eq
  measurement_eq := hs.measurement_eq
  view_eq := hs.view_eq
  canvas_eq := hs.canvas_eq
  two_le_next := by
    have hnext := hs.two_le_next
    simp only [withGroup]
    omega
  element_value h := hs.element_value h
  element_lt := by
    intro other found hother
    have hbefore : s.knownElement other = some found := hother
    have hlt := hs.element_lt hbefore
    simp only [withGroup]
    omega
  element_inj h h' := hs.element_inj h h'
  group_value := by
    intro other found hother
    rw [knownGroup_withGroup] at hother
    split_ifs at hother with hkey
    · cases hother
      have href : other = ref := congrArg GroupRef.mk hkey
      exact ⟨s.next + 1, by rw [href]; rfl⟩
    · exact hs.group_value hother
  group_lt := by
    intro other found hother
    have hnext : s.next < (s.withGroup ref).next := by
      simp only [withGroup]
      omega
    rw [knownGroup_withGroup] at hother
    split_ifs at hother
    · cases hother
      exact hnext
    · exact Nat.lt_trans (hs.group_lt hother) hnext
  group_inj := by
    intro a b found found' ha hb hnumber
    rw [knownGroup_withGroup] at ha hb
    -- As for elements: the number of the new instance is above all others.
    split_ifs at ha hb with hkey hkey' hkey'
    · rw [hkey, hkey']
    · cases ha
      have hlt := hs.group_lt hb
      simp only at hnumber
      omega
    · cases hb
      have hlt := hs.group_lt ha
      simp only at hnumber
      omega
    · exact hs.group_inj ha hb hnumber

/-! ## One lookup -/

/-- Looking an element up gives the instance that is remembered from then on. -/
theorem Coherent.after_element (hs : s.Coherent spec m) (ref : ElementRef) :
    (s.element ref).2.Coherent spec m ∧ s.Extends (s.element ref).2 ∧
      (s.element ref).2.knownElement ref = some (s.element ref).1 := by
  cases hknown : s.knownElement ref with
  | none =>
      rw [element_of_unknown hknown]
      refine ⟨coherent_withElement hs hknown, extends_withElement hknown, ?_⟩
      simp [knownElement_withElement hknown]
  | some found =>
      rw [element_of_known hknown]
      exact ⟨hs, Extends.refl s, hknown⟩

/-- Looking a group up gives the instance that is remembered from then on. -/
theorem Coherent.after_group (hs : s.Coherent spec m) (ref : GroupRef) :
    (s.group ref).2.Coherent spec m ∧ s.Extends (s.group ref).2 ∧
      (s.group ref).2.knownGroup ref = some (s.group ref).1 := by
  cases hknown : s.knownGroup ref with
  | none =>
      rw [group_of_unknown hknown]
      refine ⟨coherent_withGroup hs ref, extends_withGroup hknown, ?_⟩
      simp [knownGroup_withGroup]
  | some found =>
      rw [group_of_known hknown]
      exact ⟨hs, Extends.refl s, hknown⟩

theorem Coherent.element_fst (hs : s.Coherent spec m) (ref : ElementRef) :
    (s.element ref).1.value = spec.elementIn m ref := by
  rcases hs.after_element ref with ⟨hcoherent, -, hknown⟩
  exact hcoherent.element_value hknown

@[simp] theorem map_value_instances (first : Nat) (es : List Element) :
    (instances first es).map (·.value) = es := by
  simp [instances, List.map_map, Function.comp_def, List.zipIdx_map_fst]

/-- With its instances forgotten, a shared group is what its reference stands for. -/
theorem Coherent.toGroup_sharedGroup (hs : s.Coherent spec m) (first : Nat) (ref : GroupRef) :
    (s.sharedGroup first ref).toGroup = spec.groupIn m ref := by
  have hview : s.view.value = m.view := by rw [hs.view_eq]
  have hcanvas : s.canvas.value = m.canvas := by rw [hs.canvas_eq]
  -- Both sides ask for the selector; only those of the frames make a difference.
  cases hselector : spec.selector? ref.key with
  | none =>
      simp [sharedGroup, Spec.groupIn, hs.spec_eq, hs.measurement_eq, hselector,
        SharedGroup.toGroup]
  | some selector =>
      cases selector <;>
        simp [sharedGroup, Spec.groupIn, hs.spec_eq, hs.measurement_eq, hselector,
          SharedGroup.toGroup, hview, hcanvas]

theorem Coherent.group_fst (hs : s.Coherent spec m) (ref : GroupRef) :
    (s.group ref).1.value.toGroup = spec.groupIn m ref := by
  rcases hs.after_group ref with ⟨hcoherent, -, hknown⟩
  rcases hcoherent.group_value hknown with ⟨first, hvalue⟩
  rw [hvalue, hcoherent.toGroup_sharedGroup]

/-! ## A whole query -/

/-- By induction on the query: every lookup leaves a coherent scope to the rest of the query, and
what is found does not depend on which coherent scope it is. -/
theorem Coherent.run {α : Type} (q : Query α) (hs : s.Coherent spec m) :
    (Scope.run q s).1 = q.answer (spec.elementIn m) (spec.groupIn m) := by
  induction q generalizing s with
  | done a => rfl
  | element ref next ih =>
      have hstep : Scope.run (.element ref next) s =
          Scope.run (next (s.element ref).1.value) (s.element ref).2 := rfl
      rw [hstep, ih _ (hs.after_element ref).1, hs.element_fst]
      rfl
  | group ref next ih =>
      have hstep : Scope.run (.group ref next) s =
          Scope.run (next (s.group ref).1.value.toGroup) (s.group ref).2 := rfl
      rw [hstep, ih _ (hs.after_group ref).1, hs.group_fst]
      rfl

end Scope
end LayoutAudit
