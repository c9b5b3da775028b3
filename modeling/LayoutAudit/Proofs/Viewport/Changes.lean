import Mathlib.Data.List.Forall2
import Mathlib.Data.List.Induction
import LayoutAudit.Proofs.Viewport.Catalog

/-!
# Proofs.Viewport.Changes — a catalog after any number of changes

A change adds a preset or a group, or replaces the one of that name where it stands.  A group may
name only presets that are there when it is added, and no preset is ever taken away, so that all
groups can be expanded in full at any time.

* `Distinct.names_putAll`, `Distinct.find?_putAll` — names and lookups of items that were put one
  after the other;
* `Catalog.Change`, `Catalog.changed` — changes one after the other, up to the first that fails;
* `Catalog.Sound` — what every change keeps;
* `Catalog.Sound.viewports_of_group` — a group stands for as many viewports as it has members;
* `Settings.catalog_error_iff` — which settings have no catalog;
* `Catalog.sound_after_changes` — all of this of the catalogs that a run may begin with.
-/

namespace LayoutAudit

/-! ## Items that are put one after the other -/

namespace Distinct

variable {α : Type} {name : α → String}

def putAll (name : α → String) (as bs : List α) : List α :=
  bs.foldl (fun as b => put name b as) as

theorem putAll_concat (as bs : List α) (b : α) :
    putAll name as (bs ++ [b]) = put name b (putAll name as bs) := by
  simp [putAll]

theorem names_put (a : α) (as : List α) :
    (put name a as).map name =
      if name a ∈ as.map name then as.map name else as.map name ++ [name a] := by
  induction as with
  | nil => simp [put]
  | cons b rest ih =>
      by_cases hb : name b = name a
      · simp [put, hb]
      · have hmem : name a ∈ (b :: rest).map name ↔ name a ∈ rest.map name := by
          simp [Ne.symm hb]
        rw [put, if_neg hb, List.map_cons, ih]
        by_cases ha : name a ∈ rest.map name
        · rw [if_pos ha, if_pos (hmem.2 ha), List.map_cons]
        · rw [if_neg ha, if_neg (mt hmem.1 ha), List.map_cons, List.cons_append]

theorem put_nodup (a : α) {as : List α} (h : (as.map name).Nodup) :
    ((put name a as).map name).Nodup := by
  rw [names_put]
  by_cases ha : name a ∈ as.map name
  · rwa [if_pos ha]
  · rw [if_neg ha]
    exact List.nodup_append.2 ⟨h, List.pairwise_singleton _ _, fun x hx y hy hxy =>
      ha (List.mem_singleton.1 hy ▸ hxy ▸ hx)⟩

theorem find?_put (a : α) (as : List α) (key : String) :
    (put name a as).find? (name · == key) =
      if name a = key then some a else as.find? (name · == key) := by
  induction as with
  | nil => by_cases ha : name a = key <;> simp [put, ha]
  | cons b rest ih =>
      by_cases hb : name b = name a
      · by_cases ha : name a = key <;> simp [put, hb, ha]
      · by_cases hkey : name b = key
        · have ha : name a ≠ key := fun ha => hb (hkey.trans ha.symm)
          simp [put, hkey, ha, Ne.symm ha]
        · simp [put, hb, hkey, ih]

theorem firstsAfter_concat (seen : List String) (as : List α) (a : α) :
    firstsAfter name seen (as ++ [a]) =
      firstsAfter name seen as ++ if name a ∈ seen ∨ name a ∈ as.map name then [] else [a] := by
  induction as generalizing seen with
  | nil => by_cases ha : name a ∈ seen <;> simp [firstsAfter, ha]
  | cons b rest ih =>
      by_cases hb : name b ∈ seen
      · -- The name of `b` is known already, so that it hides no other name.
        have hiff : (name a ∈ seen ∨ name a ∈ (b :: rest).map name) ↔
            (name a ∈ seen ∨ name a ∈ rest.map name) := by
          rw [List.map_cons, List.mem_cons]
          exact ⟨fun h => h.elim .inl fun h => h.elim (fun heq => .inl (heq ▸ hb)) .inr,
            fun h => h.imp_right .inr⟩
        simp only [List.cons_append, firstsAfter, List.contains_iff_mem, hb, if_true, ih, hiff]
      · have hiff : (name a ∈ seen ∨ name a ∈ (b :: rest).map name) ↔
            (name a ∈ name b :: seen ∨ name a ∈ rest.map name) := by
          rw [List.map_cons, List.mem_cons, List.mem_cons, or_left_comm, or_assoc]
        simp only [List.cons_append, firstsAfter, List.contains_iff_mem, hb, if_false, ih, hiff]

theorem firsts_concat (as : List α) (a : α) :
    firsts name (as ++ [a]) =
      if name a ∈ as.map name then firsts name as else firsts name as ++ [a] := by
  rw [firsts, firstsAfter_concat]
  by_cases ha : name a ∈ as.map name
  · rw [if_pos ha, if_pos (.inr ha), List.append_nil]
    rfl
  · rw [if_neg ha, if_neg (by simpa using ha)]
    rfl

theorem mem_names_firsts {as : List α} {key : String} :
    key ∈ (firsts name as).map name ↔ key ∈ as.map name := by
  simp only [List.mem_map]
  constructor
  · rintro ⟨a, ha, rfl⟩
    exact ⟨a, mem_of_mem_firsts ha, rfl⟩
  · rintro ⟨a, ha, rfl⟩
    exact exists_mem_firsts name ha

theorem firsts_of_nodup {as : List α} (h : (as.map name).Nodup) : firsts name as = as := by
  induction as using List.reverseRecOn with
  | nil => rfl
  | append_singleton as a ih =>
      rw [List.map_append, List.map_singleton, List.nodup_append] at h
      have hnew : name a ∉ as.map name := fun ha => h.2.2 _ ha _ (List.mem_singleton.2 rfl) rfl
      rw [firsts_concat, if_neg hnew, ih h.1]

section PutAll

variable {as : List α}

/-- A name has the place at which it was put first. -/
theorem names_putAll (h : (as.map name).Nodup) (bs : List α) :
    (putAll name as bs).map name = (firsts name (as ++ bs)).map name := by
  induction bs using List.reverseRecOn with
  | nil => rw [List.append_nil, firsts_of_nodup h, putAll, List.foldl_nil]
  | append_singleton bs b ih =>
      rw [putAll_concat, names_put, ih, ← List.append_assoc, firsts_concat]
      by_cases hb : name b ∈ (as ++ bs).map name
      · rw [if_pos (mem_names_firsts.2 hb), if_pos hb]
      · rw [if_neg (mt mem_names_firsts.1 hb), if_neg hb, List.map_append, List.map_singleton]

theorem findRev?_concat (as : List α) (b : α) (key : String) :
    (as ++ [b]).findRev? (name · == key) =
      if name b = key then some b else as.findRev? (name · == key) := by
  rw [List.findRev?_eq_find?_reverse, List.findRev?_eq_find?_reverse, List.reverse_append,
    List.reverse_singleton, List.singleton_append]
  by_cases hb : name b = key <;> simp [hb]

theorem find?_eq_findRev? (h : (as.map name).Nodup) (key : String) :
    as.find? (name · == key) = as.findRev? (name · == key) := by
  induction as using List.reverseRecOn with
  | nil => rfl
  | append_singleton as a ih =>
      rw [List.map_append, List.map_singleton, List.nodup_append] at h
      rw [findRev?_concat, ← ih h.1, List.find?_append]
      by_cases ha : name a = key
      · -- An item before it with the same name would be one too many.
        have hnone : as.find? (name · == key) = none := by
          refine List.find?_eq_none.2 fun b hb hname => ?_
          have hsame : name b = name a := by simpa [ha] using hname
          exact h.2.2 _ (List.mem_map_of_mem hb) _ (List.mem_singleton.2 rfl) hsame
        simp [hnone, ha]
      · simp [ha]

/-- Under a name there is the item that was put last. -/
theorem find?_putAll (h : (as.map name).Nodup) (bs : List α) (key : String) :
    (putAll name as bs).find? (name · == key) = (as ++ bs).findRev? (name · == key) := by
  induction bs using List.reverseRecOn with
  | nil => rw [List.append_nil, ← find?_eq_findRev? h key, putAll, List.foldl_nil]
  | append_singleton bs b ih =>
      rw [putAll_concat, find?_put, ih, ← List.append_assoc, findRev?_concat]

end PutAll
end Distinct

/-! ## Changes of a catalog -/

namespace Catalog

inductive Change where
  | preset (v : Viewport)
  | group (name : String) (members : List String)
  deriving DecidableEq, Repr

def Change.preset? : Change → Option Viewport
  | preset v => some v
  | group _ _ => none

def change (c : Catalog) : Change → Except TokenError Catalog
  | .preset v => .ok (c.addPreset v)
  | .group name members => c.addGroup name members

/-- Makes changes, all of which have to succeed. -/
def changed (c : Catalog) (changes : List Change) : Except TokenError Catalog :=
  changes.foldlM change c

def names (c : Catalog) : List String := c.presets.map Viewport.name

variable {c c' : Catalog} {changes : List Change}

theorem changed_cons (c : Catalog) (change : Change) (rest : List Change) :
    c.changed (change :: rest) = c.change change >>= fun next => next.changed rest :=
  List.foldlM_cons

theorem changed_append (c : Catalog) (before after : List Change) :
    c.changed (before ++ after) = c.changed before >>= fun next => next.changed after :=
  List.foldlM_append

theorem isNone_preset?_iff (key : String) : (c.preset? key).isNone = true ↔ key ∉ c.names := by
  simp [preset?, names]

/-- A group is added exactly if all its members are presets. -/
theorem addGroup_ok_iff {name : String} {members : List String} :
    c.addGroup name members = .ok c' ↔
      (∀ m ∈ members, m ∈ c.names) ∧
        c' = { c with groups := Distinct.put Prod.fst (name, members) c.groups } := by
  unfold addGroup
  cases hfind : members.find? fun m => (c.preset? m).isNone with
  | some m =>
      have hmem := List.mem_of_find?_eq_some hfind
      have hgone : m ∉ c.names := (isNone_preset?_iff m).1 (by simpa using List.find?_some hfind)
      simp only [reduceCtorEq, false_iff, not_and]
      exact fun hall => absurd (hall m hmem) hgone
  | none =>
      have hall : ∀ m ∈ members, m ∈ c.names := fun m hm =>
        Classical.not_not.1 (mt (isNone_preset?_iff m).2 (List.find?_eq_none.1 hfind m hm))
      simp only [Except.ok.injEq]
      exact ⟨fun h => ⟨hall, h.symm⟩, fun h => h.2.symm⟩

/-! ## What changes make of a catalog -/

theorem change_presets {change : Change} (h : c.change change = .ok c') :
    c'.presets = Distinct.putAll Viewport.name c.presets change.preset?.toList := by
  cases change with
  | preset v =>
      cases h
      rfl
  | group name members => exact addGroup_presets h

theorem changed_presets (h : c.changed changes = .ok c') :
    c'.presets = Distinct.putAll Viewport.name c.presets (changes.filterMap Change.preset?) := by
  induction changes generalizing c with
  | nil =>
      cases h
      rfl
  | cons change rest ih =>
      rw [changed_cons] at h
      rcases exists_of_bind_ok h with ⟨next, hnext, hrest⟩
      rw [ih hrest, change_presets hnext]
      cases hgiven : change.preset? <;> simp [Distinct.putAll, hgiven]

/-! ## What changes keep -/

/-- Presets and groups have names of their own, and groups name nothing but presets. -/
structure Sound (c : Catalog) : Prop where
  presets : c.names.Nodup
  groups : (c.groups.map Prod.fst).Nodup
  members : ∀ group ∈ c.groups, ∀ m ∈ group.2, m ∈ c.names

theorem sound_empty : empty.Sound where
  presets := List.nodup_nil
  groups := List.nodup_nil
  members := by
    intro group hgroup
    cases hgroup

theorem sound_standard : standard.Sound where
  presets := by decide
  groups := by decide
  members := by decide

theorem mem_names_addPreset {v : Viewport} {key : String} (h : key ∈ c.names) :
    key ∈ (c.addPreset v).names := by
  rw [names, addPreset, Distinct.names_put]
  split
  · exact h
  · exact List.mem_append_left _ h

theorem Sound.change (hc : c.Sound) {change : Change} (h : c.change change = .ok c') :
    c'.Sound := by
  cases change with
  | preset v =>
      cases h
      exact ⟨Distinct.put_nodup v hc.presets, hc.groups, fun group hgroup m hm =>
        mem_names_addPreset (hc.members group hgroup m hm)⟩
  | group name members =>
      rcases addGroup_ok_iff.1 h with ⟨hall, rfl⟩
      refine ⟨hc.presets, Distinct.put_nodup (name, members) hc.groups, fun group hgroup => ?_⟩
      -- A group is the new one, or was there before.
      rcases Distinct.mem_put hgroup with rfl | hgroup
      · exact hall
      · exact hc.members group hgroup

theorem Sound.changed (hc : c.Sound) (h : c.changed changes = .ok c') : c'.Sound :=
  foldlM_ok_of_step (fun _ hkept hnext => hkept.change hnext) hc h

/-! ## Groups as tokens -/

theorem mem_groups_of_group? {key : String} {members : List String}
    (h : c.group? key = some members) : (key, members) ∈ c.groups := by
  rcases List.lookup_eq_some_iff.1 h with ⟨before, after, hgroups, -⟩
  rw [hgroups]
  exact List.mem_append_right before List.mem_cons_self

theorem forall₂_filterMap_preset? {members : List String} (h : ∀ m ∈ members, m ∈ c.names) :
    List.Forall₂ (fun m v => c.preset? m = some v) members (members.filterMap c.preset?) := by
  induction members with
  | nil => exact .nil
  | cons m rest ih =>
      rcases List.forall_mem_cons.1 h with ⟨hm, hrest⟩
      cases hfound : c.preset? m with
      | none => exact absurd hm ((isNone_preset?_iff m).1 (by rw [hfound]; rfl))
      | some v =>
          rw [List.filterMap_cons_some hfound]
          exact .cons hfound (ih hrest)

/-- No member of a group is dropped when the group is expanded. -/
theorem Sound.viewports_of_group (hc : c.Sound) {token key : String} {members : List String}
    (htoken : Text.trim token = key) (hword : key ≠ "") (hplain : '=' ∉ key.toList)
    (hpreset : c.preset? key = none) (hgroup : c.group? key = some members) :
    ∃ vs, c.viewports token = .ok vs ∧
      List.Forall₂ (fun m v => c.preset? m = some v) members vs := by
  refine ⟨members.filterMap c.preset?, ?_,
    forall₂_filterMap_preset? (hc.members _ (mem_groups_of_group? hgroup))⟩
  have hlook : c.lookUp key = .ok (members.filterMap c.preset?) := by
    simp [lookUp, hword, hplain, hpreset, hgroup]
  rw [viewports, htoken, hlook]
  rfl

end Catalog

/-! ## The catalog of a run -/

namespace Settings

open Catalog

/-- The changes that settings ask for: first their presets, and then their groups. -/
def changes (s : Settings) : List Change :=
  s.presets.map .preset ++ s.groups.map fun group => .group group.1 group.2

theorem changed_presets_ok (c : Catalog) (vs : List Viewport) :
    c.changed (vs.map .preset) = .ok (vs.foldl Catalog.addPreset c) := by
  induction vs generalizing c with
  | nil => rfl
  | cons v rest ih => exact ih (c.addPreset v)

/-- The catalog of a run comes about by these changes. -/
theorem catalog_eq_changed (s : Settings) : s.catalog = Catalog.standard.changed s.changes := by
  have hgroups (c : Catalog) : c.changed (s.groups.map fun group => .group group.1 group.2) =
      s.groups.foldlM (fun c group => c.addGroup group.1 group.2) c := by
    rw [changed, List.foldlM_map]
    rfl
  rw [changes, changed_append, changed_presets_ok]
  exact (hgroups _).symm

/-- Groups can be added exactly if they name nothing but presets, since a group changes none. -/
theorem changed_groups_ok_iff {groups : List (String × List String)} {c : Catalog} :
    (∃ c', c.changed (groups.map fun group => .group group.1 group.2) = .ok c') ↔
      ∀ group ∈ groups, ∀ m ∈ group.2, m ∈ c.names := by
  induction groups generalizing c with
  | nil => simp [changed, Pure.pure, Except.pure]
  | cons group rest ih =>
      let next : Catalog := { c with groups := Distinct.put Prod.fst (group.1, group.2) c.groups }
      have hnext (hall : ∀ m ∈ group.2, m ∈ c.names) :
          c.change (.group group.1 group.2) = .ok next := addGroup_ok_iff.2 ⟨hall, rfl⟩
      rw [List.forall_mem_cons, List.map_cons]
      simp only [changed_cons]
      constructor
      · rintro ⟨c', h⟩
        rcases exists_of_bind_ok h with ⟨_, hfirst, hrest⟩
        rcases addGroup_ok_iff.1 hfirst with ⟨hall, rfl⟩
        exact ⟨hall, (ih (c := next)).1 ⟨c', hrest⟩⟩
      · rintro ⟨hall, hrest⟩
        rw [hnext hall]
        exact (ih (c := next)).2 hrest

/-- Settings have no catalog exactly if one of their groups names what is neither a standard preset
nor one of theirs. -/
theorem catalog_error_iff (s : Settings) :
    (∃ e, s.catalog = .error e) ↔
      ∃ group ∈ s.groups, ∃ m ∈ group.2,
        m ∉ Catalog.standardPresets.map Viewport.name ∧ m ∉ s.presets.map Viewport.name := by
  have hnames (m : String) : m ∈ (s.presets.foldl Catalog.addPreset .standard).names ↔
      m ∈ Catalog.standardPresets.map Viewport.name ∨ m ∈ s.presets.map Viewport.name := by
    have hpresets := changed_presets (changed_presets_ok .standard s.presets)
    have hgiven : (s.presets.map Change.preset).filterMap Change.preset? = s.presets := by
      simp [List.filterMap_map, Function.comp_def, Change.preset?]
    rw [names, hpresets, Distinct.names_putAll sound_standard.presets, Distinct.mem_names_firsts,
      hgiven, List.map_append, List.mem_append]
    rfl
  have herror : (∃ e, s.catalog = .error e) ↔ ¬ ∃ c, s.catalog = .ok c := by
    cases s.catalog <;> simp
  rw [herror, catalog_eq_changed, changes, changed_append, changed_presets_ok]
  change (¬ ∃ c, Catalog.changed _ (s.groups.map fun group => .group group.1 group.2) = .ok c) ↔ _
  rw [changed_groups_ok_iff]
  simp only [hnames, not_forall, not_or, exists_prop]

end Settings

namespace Catalog

/-- A catalog that a run begins with, after any changes that succeeded, has one preset and one group
of each name, and its groups name nothing but presets.  A preset has the place at which its name was
given first, and is the viewport that was given last.  A token that is the name of a group and of no
preset stands for the presets that the members of the group name, one for each member and in that
order; a token that is empty or holds an equals sign is the name of nothing.  Settings have no
catalog exactly if one of their groups names what is neither a standard preset nor one of theirs. -/
theorem sound_after_changes :
    (∀ (c₀ c : Catalog) (changes : List Change), c₀ = empty ∨ c₀ = standard →
      c₀.changed changes = .ok c →
      let given := c₀.presets ++ changes.filterMap Change.preset?
      (c.presets.map Viewport.name).Nodup ∧ (c.groups.map Prod.fst).Nodup ∧
      (∀ group ∈ c.groups, ∀ m ∈ group.2, ∃ v ∈ c.presets, v.name = m) ∧
      c.presets.map Viewport.name = (Distinct.firsts Viewport.name given).map Viewport.name ∧
      (∀ key, c.preset? key = given.findRev? (·.name == key)) ∧
      ∀ token key members, Text.trim token = key → key ≠ "" → '=' ∉ key.toList →
        c.preset? key = none → c.group? key = some members →
        ∃ vs, c.viewports token = .ok vs ∧
          List.Forall₂ (fun m v => c.preset? m = some v) members vs) ∧
    ∀ s : Settings, (∃ e, s.catalog = .error e) ↔
      ∃ group ∈ s.groups, ∃ m ∈ group.2,
        m ∉ standardPresets.map Viewport.name ∧ m ∉ s.presets.map Viewport.name := by
  refine ⟨?_, Settings.catalog_error_iff⟩
  intro c₀ c changes hbase h given
  have hsound₀ : c₀.Sound := by
    rcases hbase with rfl | rfl
    · exact sound_empty
    · exact sound_standard
  have hsound : c.Sound := hsound₀.changed h
  have hpresets := changed_presets h
  refine ⟨hsound.presets, hsound.groups, ?_, ?_, ?_, ?_⟩
  · exact fun group hgroup m hm => List.mem_map.1 (hsound.members group hgroup m hm)
  · rw [hpresets]
    exact Distinct.names_putAll hsound₀.presets _
  · intro key
    rw [preset?, hpresets]
    exact Distinct.find?_putAll hsound₀.presets _ key
  · intro token key members htoken hword hplain hpreset hgroup
    exact hsound.viewports_of_group htoken hword hplain hpreset hgroup

/-- A preset that is replaced after a group has named it keeps its place, and the group stands for
what it has been replaced by.  A group cannot name what is given only later. -/
theorem sound_after_replacing :
    let small (width height : Nat) : Change := .preset ⟨"small", width, height⟩
    let settings : Settings := { Settings.standard with groups := [("mine", ["small"])] }
    (∃ c, empty.changed [small 360 640, .preset ⟨"large", 1920, 1080⟩,
          .group "mine" ["large", "small", "small"], small 400 700] = .ok c ∧
        c.presets.map Viewport.name = ["small", "large"] ∧
        ∃ vs, c.viewports " mine " = .ok vs ∧
          List.Forall₂ (fun m v => c.preset? m = some v) ["large", "small", "small"] vs) ∧
      ∃ e, settings.catalog = .error e := by
  intro small settings
  constructor
  · refine ⟨_, rfl, ?_⟩
    rcases sound_after_changes.1 empty _ [small 360 640, .preset ⟨"large", 1920, 1080⟩,
      .group "mine" ["large", "small", "small"], small 400 700] (.inl rfl) rfl with
      ⟨-, -, -, hnames, -, htokens⟩
    exact ⟨hnames, htokens " mine " "mine" _ (by decide) (by decide) (by decide) rfl rfl⟩
  · exact (sound_after_changes.2 settings).2
      ⟨_, List.mem_cons_self, "small", List.mem_cons_self, by decide, by decide⟩

/-- A group may have a name that no token can mean: with an equals sign, a token gives a viewport of
its own. -/
theorem group_without_token :
    ∃ c, standard.changed [.group "a=b" ["mobile"]] = .ok c ∧
      c.preset? "a=b" = none ∧ c.group? "a=b" = some ["mobile"] ∧
      c.viewports "a=b" = .error ⟨"a=b", .malformed⟩ :=
  ⟨_, rfl, by decide, by decide, by decide⟩

end Catalog
end LayoutAudit
