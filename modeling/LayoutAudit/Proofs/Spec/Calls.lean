import LayoutAudit.Spec.Standard
import Mathlib.Data.List.Nodup
import Mathlib.Data.List.Perm.Basic

/-!
# Proofs.Spec.Calls — the calls of a session and the keys that they take

A session is a sequence of calls.  The key of a reference tells the kind of the reference and the
number of the call that took it, so that no two references of a session share a key.

* `Spec.Call`, `Builder.makeAll`, `Spec.ofCalls` — calls, and the spec that they build;
* `Session.WellKept` — what holds of a session after any calls;
* `Session.wellKept_make`, `Spec.wellKept_ofCalls` — one call, and all of them;
* `Spec.selector?_of_mem` — a declared key has the selector that it was declared with.
-/

namespace LayoutAudit
namespace Spec

inductive Call where
  | element (selector : Selector)
  | group (selector : Selector)
  | must (constraints : Bundle)
  | mustRef (factory : Factory)

/-- Makes a call; what it hands out is determined by the calls before it. -/
def Call.make : Call → Builder Unit
  | element selector => do let _ ← Builder.element selector
  | group selector => do let _ ← Builder.group selector
  | must constraints => Builder.must constraints
  | mustRef factory => Builder.mustRef factory

def Builder.makeAll : List Call → Builder Unit
  | [] => pure ()
  | call :: rest => do
      call.make
      makeAll rest

def ofCalls (calls : List Call) : Spec := build (Builder.makeAll calls)

/-- The keys of all declarations, those of the frames included. -/
def keys (s : Spec) : List String := s.declarations.map (·.key)

theorem mem_declarations {s : Spec} {d : Declaration} :
    d ∈ s.declarations ↔ d = ⟨viewKey, .view⟩ ∨ d = ⟨canvasKey, .canvas⟩ ∨
      d ∈ s.elements ∨ d ∈ s.groups ∨ d ∈ s.frameGroups := by
  simp [declarations]

namespace Session

/-! ## Keys -/

theorem toDigits_inj {i j : Nat} (h : Nat.toDigits 10 i = Nat.toDigits 10 j) : i = j := by
  calc
    i = Nat.ofDigitChars 10 (Nat.toDigits 10 i) 0 :=
          (Nat.ofDigitChars_toDigits (by decide) (by decide)).symm
    _ = Nat.ofDigitChars 10 (Nat.toDigits 10 j) 0 := by rw [h]
    _ = j := Nat.ofDigitChars_toDigits (by decide) (by decide)

theorem toList_elementKey (n : Nat) :
    (elementKey n).toList = 'e' :: 'l' :: '-' :: Nat.toDigits 10 n := by
  simp [elementKey]

theorem toList_groupKey (n : Nat) :
    (groupKey n).toList = 'g' :: 'r' :: 'o' :: 'u' :: 'p' :: '-' :: Nat.toDigits 10 n := by
  simp [groupKey]

theorem elementKey_inj {i j : Nat} (h : elementKey i = elementKey j) : i = j := by
  have hlist := congrArg String.toList h
  simp only [toList_elementKey, List.cons.injEq, true_and] at hlist
  exact toDigits_inj hlist

theorem groupKey_inj {i j : Nat} (h : groupKey i = groupKey j) : i = j := by
  have hlist := congrArg String.toList h
  simp only [toList_groupKey, List.cons.injEq, true_and] at hlist
  exact toDigits_inj hlist

/-- The first letter tells the keys of elements, of groups and of the frames apart. -/
theorem elementKey_ne_groupKey (i j : Nat) : elementKey i ≠ groupKey j := by
  intro h
  have hlist := congrArg String.toList h
  simp [toList_elementKey, toList_groupKey] at hlist

theorem elementKey_ne_frame (i : Nat) : elementKey i ≠ viewKey ∧ elementKey i ≠ canvasKey := by
  constructor <;> intro h <;> have hlist := congrArg String.toList h <;>
    simp [toList_elementKey, viewKey, canvasKey] at hlist

theorem groupKey_ne_frame (i : Nat) : groupKey i ≠ viewKey ∧ groupKey i ≠ canvasKey := by
  constructor <;> intro h <;> have hlist := congrArg String.toList h <;>
    simp [toList_groupKey, viewKey, canvasKey] at hlist

/-! ## The invariant -/

/-- Declarations of one kind: the keys are among the first `n` of that kind, and the selectors are
those of frames, or none is. -/
def Declared (key : Nat → String) (frame : Bool) (n : Nat) (ds : List Declaration) : Prop :=
  ∀ d ∈ ds, (∃ i ≤ n, d.key = key i) ∧ d.selector.isFrame = frame

section Declared

variable {key : Nat → String} {frame : Bool} {n : Nat} {ds : List Declaration}

/-- A call takes one key more, whatever it declares. -/
theorem Declared.mono (h : Declared key frame n ds) : Declared key frame (n + 1) ds := by
  intro d hd
  rcases h d hd with ⟨⟨i, hi, hkey⟩, hframe⟩
  exact ⟨⟨i, Nat.le_succ_of_le hi, hkey⟩, hframe⟩

theorem Declared.append (h : Declared key frame n ds) {selector : Selector}
    (hframe : selector.isFrame = frame) :
    Declared key frame (n + 1) (ds ++ [⟨key (n + 1), selector⟩]) := by
  intro d hd
  rcases List.mem_append.1 hd with hold | hnew
  · exact h.mono d hold
  · rw [List.mem_singleton.1 hnew]
    exact ⟨⟨n + 1, Nat.le_refl _, rfl⟩, hframe⟩

/-- The next key is not among those that were given out. -/
theorem Declared.key_ne_next (h : Declared key frame n ds)
    (hinj : ∀ {i j : Nat}, key i = key j → i = j) {d : Declaration} (hd : d ∈ ds) :
    d.key ≠ key (n + 1) := by
  intro hnext
  rcases h d hd with ⟨⟨i, hi, hkey⟩, -⟩
  have hnumber : i = n + 1 := hinj (hkey.symm.trans hnext)
  omega

end Declared

/-- What holds of a session: elements and groups have keys of their kinds, no two declarations have
the same key, and the groups of frames are kept apart from what is to be measured. -/
structure WellKept (s : Session) : Prop where
  elements : Declared elementKey false s.keys s.spec.elements
  groups : Declared groupKey false s.keys s.spec.groups
  frameGroups : Declared groupKey true s.keys s.spec.frameGroups
  nodup_keys : s.spec.keys.Nodup

variable {s : Session}

theorem wellKept_start : start.WellKept where
  elements := by
    intro d hd
    cases hd
  groups := by
    intro d hd
    cases hd
  frameGroups := by
    intro d hd
    cases hd
  nodup_keys := by decide

theorem WellKept.fresh_elementKey (hs : s.WellKept) : elementKey (s.keys + 1) ∉ s.spec.keys := by
  intro hmem
  rcases List.mem_map.1 hmem with ⟨d, hd, hkey⟩
  have hframe := elementKey_ne_frame (s.keys + 1)
  -- Only the keys of elements are of the same kind, and their numbers are lower.
  rcases mem_declarations.1 hd with rfl | rfl | helement | hgroup | hgroup
  · exact hframe.1 hkey.symm
  · exact hframe.2 hkey.symm
  · exact hs.elements.key_ne_next elementKey_inj helement hkey
  · rcases hs.groups d hgroup with ⟨⟨i, -, hgroupKey⟩, -⟩
    exact elementKey_ne_groupKey _ i (hkey.symm.trans hgroupKey)
  · rcases hs.frameGroups d hgroup with ⟨⟨i, -, hgroupKey⟩, -⟩
    exact elementKey_ne_groupKey _ i (hkey.symm.trans hgroupKey)

theorem WellKept.fresh_groupKey (hs : s.WellKept) : groupKey (s.keys + 1) ∉ s.spec.keys := by
  intro hmem
  rcases List.mem_map.1 hmem with ⟨d, hd, hkey⟩
  have hframe := groupKey_ne_frame (s.keys + 1)
  -- Groups of frames take their keys from the same numbers as other groups.
  rcases mem_declarations.1 hd with rfl | rfl | helement | hgroup | hgroup
  · exact hframe.1 hkey.symm
  · exact hframe.2 hkey.symm
  · rcases hs.elements d helement with ⟨⟨i, -, helementKey⟩, -⟩
    exact elementKey_ne_groupKey i _ (helementKey.symm.trans hkey)
  · exact hs.groups.key_ne_next groupKey_inj hgroup hkey
  · exact hs.frameGroups.key_ne_next groupKey_inj hgroup hkey

/-- A declaration more, wherever it was put, leaves the keys different if its own is new. -/
theorem nodup_keys_of_perm {before after : Spec} {d : Declaration}
    (hnodup : before.keys.Nodup) (hfresh : d.key ∉ before.keys)
    (hperm : after.declarations.Perm (d :: before.declarations)) : after.keys.Nodup := by
  have hkeys : after.keys.Perm (d.key :: before.keys) := hperm.map Declaration.key
  exact hkeys.nodup_iff.2 (List.nodup_cons.2 ⟨hfresh, hnodup⟩)

/-! ## One call -/

theorem WellKept.declareElement (hs : s.WellKept) {selector : Selector}
    (hselector : selector.isFrame = false) : (s.declareElement selector).WellKept where
  elements := hs.elements.append hselector
  groups := hs.groups.mono
  frameGroups := hs.frameGroups.mono
  nodup_keys := by
    refine nodup_keys_of_perm (d := ⟨elementKey (s.keys + 1), selector⟩) hs.nodup_keys
      hs.fresh_elementKey ?_
    simp only [Session.declareElement, declarations]
    grind

theorem WellKept.declareGroup (hs : s.WellKept) (selector : Selector) :
    (s.declareGroup selector).WellKept := by
  have hnodup : (s.declareGroup selector).spec.keys.Nodup := by
    refine nodup_keys_of_perm (d := ⟨groupKey (s.keys + 1), selector⟩) hs.nodup_keys
      hs.fresh_groupKey ?_
    simp only [Session.declareGroup, declarations]
    grind
  cases hframe : selector.isFrame with
  | true =>
      have hafter : s.declareGroup selector = ⟨s.keys + 1, { s.spec with
          frameGroups := s.spec.frameGroups ++ [⟨groupKey (s.keys + 1), selector⟩] }⟩ := by
        simp [Session.declareGroup, hframe]
      rw [hafter] at hnodup ⊢
      exact ⟨hs.elements.mono, hs.groups.mono, hs.frameGroups.append hframe, hnodup⟩
  | false =>
      have hafter : s.declareGroup selector = ⟨s.keys + 1, { s.spec with
          groups := s.spec.groups ++ [⟨groupKey (s.keys + 1), selector⟩] }⟩ := by
        simp [Session.declareGroup, hframe]
      rw [hafter] at hnodup ⊢
      exact ⟨hs.elements.mono, hs.groups.append hframe, hs.frameGroups.mono, hnodup⟩

theorem WellKept.register (hs : s.WellKept) (factory : Factory) : (s.register factory).WellKept :=
  ⟨hs.elements, hs.groups, hs.frameGroups, hs.nodup_keys⟩

/-- Whatever is called, the session stays well kept. -/
theorem wellKept_make (hs : s.WellKept) (call : Call) : (call.make s).2.WellKept := by
  cases call with
  | element selector =>
      -- References to the frames are handed out without a declaration.
      cases selector with
      | css query => exact hs.declareElement rfl
      | xpath query => exact hs.declareElement rfl
      | view => exact hs
      | canvas => exact hs
  | group selector => exact hs.declareGroup selector
  | must constraints => exact hs.register fun _ => pure constraints
  | mustRef factory => exact hs.register factory

/-! ## All calls -/

theorem wellKept_makeAll (hs : s.WellKept) (calls : List Call) :
    (Builder.makeAll calls s).2.WellKept := by
  induction calls generalizing s with
  | nil => exact hs
  | cons call rest ih => exact ih (wellKept_make hs call)

theorem wellKept_ofCalls (calls : List Call) :
    ∃ s : Session, s.WellKept ∧ s.spec = ofCalls calls :=
  ⟨(Builder.makeAll calls start).2, wellKept_makeAll wellKept_start calls, rfl⟩

end Session

example : Standard.pageFrame = ofCalls
    [.element (.css "body"), .must (.one (.flagged (.declared ⟨"el-1"⟩) .visible)),
      .mustRef fun context =>
        pure (.one (.measures (.declared .canvas) .width (.atMost context.viewSize.width)))] := rfl

/-! ## What a declared key stands for -/

theorem selector?_of_mem {s : Spec} (hnodup : s.keys.Nodup) {d : Declaration}
    (hd : d ∈ s.declarations) : s.selector? d.key = some d.selector := by
  -- The search finds a declaration of that key, and there is only one.
  cases hfind : s.declarations.find? (·.key == d.key) with
  | none =>
      have hnone := List.find?_eq_none.1 hfind d hd
      simp at hnone
  | some found =>
      have hkey : found.key = d.key := by simpa using List.find?_some hfind
      have hsame : found = d :=
        List.inj_on_of_nodup_map hnodup (List.mem_of_find?_eq_some hfind) hd hkey
      simp [selector?, hfind, hsame]

theorem selector?_frameGroup (calls : List Call) {d : Declaration}
    (hd : d ∈ (ofCalls calls).frameGroups) :
    (ofCalls calls).selector? d.key = some .view ∨
      (ofCalls calls).selector? d.key = some .canvas := by
  rcases Session.wellKept_ofCalls calls with ⟨s, hs, heq⟩
  rw [← heq] at hd ⊢
  have hmem : d ∈ s.spec.declarations := mem_declarations.2 (.inr (.inr (.inr (.inr hd))))
  have hselector := selector?_of_mem hs.nodup_keys hmem
  have hframe := (hs.frameGroups d hd).2
  cases hd' : d.selector with
  | css query => simp [hd', Selector.isFrame] at hframe
  | xpath query => simp [hd', Selector.isFrame] at hframe
  | view => exact .inl (hd' ▸ hselector)
  | canvas => exact .inr (hd' ▸ hselector)

theorem key_ne_of_element_of_group (calls : List Call) {d d' : Declaration}
    (hd : d ∈ (ofCalls calls).elements) (hd' : d' ∈ (ofCalls calls).groups) : d.key ≠ d'.key := by
  rcases Session.wellKept_ofCalls calls with ⟨s, hs, heq⟩
  rw [← heq] at hd hd'
  rcases hs.elements d hd with ⟨⟨i, -, hkey⟩, -⟩
  rcases hs.groups d' hd' with ⟨⟨j, -, hkey'⟩, -⟩
  rw [hkey, hkey']
  exact Session.elementKey_ne_groupKey i j

end Spec
end LayoutAudit
