import Mathlib.Data.List.Forall2
import LayoutAudit.Settings

/-!
# Proofs.Viewport.Catalog — the viewports of a run have a size and a name of their own

A viewport comes from a token, from a preset of the run or from one that all runs have.  A size of
zero can enter by each of these, and is kept out by whatever reads it: by the reader of tokens, by
the validation of the settings, and by the standard presets being what they are.

* `exists_of_bind_ok`, `mem_of_mapM_ok` — what a step that succeeded went through;
* `mapM_ok_iff`, `mapM_error_iff` — what becomes of several steps;
* `Distinct.firsts_nodup`, `Distinct.exists_mem_firsts` — one item of each name is left;
* `Viewport.HasSize`, `Catalog.HasSizes` — neither width nor height is zero;
* `Settings.validate_ok_iff` — what a validation finds;
* `Settings.resolveViewports_hasSize`, `Settings.resolveViewports_nodup`.
-/

namespace LayoutAudit

/-! ## Steps that may fail -/

section Steps

variable {ε α β : Type}

theorem exists_of_bind_ok {step : Except ε α} {next : α → Except ε β} {b : β}
    (h : step >>= next = .ok b) : ∃ a, step = .ok a ∧ next a = .ok b := by
  cases step with
  | error e => cases h
  | ok a => exact ⟨a, rfl, h⟩

theorem exists_of_map_ok {step : Except ε α} {f : α → β} {b : β}
    (h : (do return f (← step) : Except ε β) = .ok b) : ∃ a, step = .ok a ∧ f a = b := by
  rcases exists_of_bind_ok h with ⟨a, ha, hb⟩
  exact ⟨a, ha, Except.ok.inj hb⟩

theorem exists_map_ok_iff {step : Except ε α} {f : α → β} :
    (∃ b, (do return f (← step) : Except ε β) = .ok b) ↔ ∃ a, step = .ok a := by
  constructor
  · rintro ⟨b, h⟩
    exact (exists_of_map_ok h).imp fun _ h => h.1
  · rintro ⟨a, rfl⟩
    exact ⟨f a, rfl⟩

theorem map_error_iff {step : Except ε α} {f : α → β} {e : ε} :
    (do return f (← step) : Except ε β) = .error e ↔ step = .error e := by
  cases step with
  | error e' => simp [bind, Except.bind]
  | ok a => exact iff_of_false (fun h => nomatch h) (fun h => nomatch h)

theorem mapM_ok_cons {f : α → Except ε β} {a : α} {rest : List α} {bs : List β}
    (h : (a :: rest).mapM f = .ok bs) :
    ∃ b later, f a = .ok b ∧ rest.mapM f = .ok later ∧ bs = b :: later := by
  rw [List.mapM_cons] at h
  rcases exists_of_bind_ok h with ⟨b, hb, hrest⟩
  rcases exists_of_map_ok hrest with ⟨later, hlater, rfl⟩
  exact ⟨b, later, hb, hlater, rfl⟩

/-- What a list of steps gives, one of them gives. -/
theorem mem_of_mapM_ok {f : α → Except ε β} {as : List α} {bs : List β}
    (h : as.mapM f = .ok bs) {b : β} (hb : b ∈ bs) : ∃ a ∈ as, f a = .ok b := by
  induction as generalizing bs with
  | nil =>
      cases h
      cases hb
  | cons a rest ih =>
      rcases mapM_ok_cons h with ⟨first, later, hfirst, hlater, rfl⟩
      rcases List.mem_cons.1 hb with rfl | hb
      · exact ⟨a, List.mem_cons_self, hfirst⟩
      · rcases ih hlater hb with ⟨a', ha', hstep⟩
        exact ⟨a', List.mem_cons_of_mem _ ha', hstep⟩

theorem mapM_ok_ne_nil {f : α → Except ε β} {as : List α} {bs : List β}
    (h : as.mapM f = .ok bs) (hne : as ≠ []) : bs ≠ [] := by
  cases as with
  | nil => exact absurd rfl hne
  | cons a rest =>
      rcases mapM_ok_cons h with ⟨first, later, -, -, rfl⟩
      exact List.cons_ne_nil first later

/-- Steps one after the other give what each of them gives. -/
theorem mapM_ok_iff {f : α → Except ε β} {as : List α} {bs : List β} :
    as.mapM f = .ok bs ↔ List.Forall₂ (fun a b => f a = .ok b) as bs := by
  constructor
  · intro h
    induction as generalizing bs with
    | nil =>
        cases h
        exact .nil
    | cons a rest ih =>
        rcases mapM_ok_cons h with ⟨b, later, hb, hlater, rfl⟩
        exact .cons hb (ih hlater)
  · intro h
    induction h with
    | nil => rfl
    | cons hb _ ih =>
        rw [List.mapM_cons, hb, ih]
        rfl

/-- All of them succeed exactly if each of them does by itself. -/
theorem exists_mapM_ok_iff {f : α → Except ε β} {as : List α} :
    (∃ bs, as.mapM f = .ok bs) ↔ ∀ a ∈ as, ∃ b, f a = .ok b := by
  induction as with
  | nil => exact ⟨fun _ a ha => absurd ha List.not_mem_nil, fun _ => ⟨[], rfl⟩⟩
  | cons a rest ih =>
      rw [List.forall_mem_cons, ← ih]
      constructor
      · rintro ⟨bs, hbs⟩
        rcases mapM_ok_cons hbs with ⟨b, later, hb, hlater, -⟩
        exact ⟨⟨b, hb⟩, later, hlater⟩
      · rintro ⟨⟨b, hb⟩, later, hlater⟩
        refine ⟨b :: later, ?_⟩
        rw [List.mapM_cons, hb, hlater]
        rfl

/-- Steps one after the other fail with the first of them that fails. -/
theorem mapM_error_iff {f : α → Except ε β} {as : List α} {e : ε} :
    as.mapM f = .error e ↔
      ∃ before a after, as = before ++ a :: after ∧ (∀ a ∈ before, ∃ b, f a = .ok b) ∧
        f a = .error e := by
  constructor
  · intro h
    induction as with
    | nil => cases h
    | cons a rest ih =>
        rw [List.mapM_cons] at h
        cases hfirst : f a with
        | error e' =>
            rw [hfirst] at h
            cases h
            exact ⟨[], a, rest, rfl, by simp, hfirst⟩
        | ok b =>
            have hrest : rest.mapM f = .error e := by
              rw [hfirst] at h
              cases hlater : rest.mapM f with
              | error e' =>
                  rw [hlater] at h
                  cases h
                  rfl
              | ok bs =>
                  rw [hlater] at h
                  cases h
            rcases ih hrest with ⟨before, last, after, rfl, hbefore, hlast⟩
            exact ⟨a :: before, last, after, rfl,
              List.forall_mem_cons.2 ⟨⟨b, hfirst⟩, hbefore⟩, hlast⟩
  · rintro ⟨before, a, after, rfl, hbefore, ha⟩
    induction before with
    | nil =>
        rw [List.nil_append, List.mapM_cons, ha]
        rfl
    | cons first before ih =>
        rcases List.forall_mem_cons.1 hbefore with ⟨⟨b, hfirst⟩, hlater⟩
        rw [List.cons_append, List.mapM_cons, hfirst, ih hlater]
        rfl

/-- What the first step is given and each step keeps, the last step leaves. -/
theorem foldlM_ok_of_step {P : β → Prop} {step : β → α → Except ε β}
    (hstep : ∀ {b b'} (a : α), P b → step b a = .ok b' → P b') {as : List α} {b b' : β}
    (hfirst : P b) (h : as.foldlM step b = .ok b') : P b' := by
  induction as generalizing b with
  | nil =>
      cases h
      exact hfirst
  | cons a rest ih =>
      rw [List.foldlM_cons] at h
      rcases exists_of_bind_ok h with ⟨next, hnext, hrest⟩
      exact ih (hstep a hfirst hnext) hrest

end Steps

/-! ## One item of each name -/

namespace Distinct

variable {α : Type} {name : α → String}

theorem mem_of_mem_firstsAfter {seen : List String} {as : List α} {a : α}
    (h : a ∈ firstsAfter name seen as) : a ∈ as ∧ name a ∉ seen := by
  induction as generalizing seen with
  | nil => cases h
  | cons b rest ih =>
      by_cases hb : name b ∈ seen
      · have hrest : a ∈ firstsAfter name seen rest := by simpa [firstsAfter, hb] using h
        exact ⟨List.mem_cons_of_mem b (ih hrest).1, (ih hrest).2⟩
      · have hsplit : a = b ∨ a ∈ firstsAfter name (name b :: seen) rest := by
          simpa [firstsAfter, hb] using h
        rcases hsplit with rfl | hrest
        · exact ⟨List.mem_cons_self, hb⟩
        · have hlater := ih hrest
          exact ⟨List.mem_cons_of_mem b hlater.1, fun hseen =>
            hlater.2 (List.mem_cons_of_mem _ hseen)⟩

theorem mem_of_mem_firsts {as : List α} {a : α} (h : a ∈ firsts name as) : a ∈ as :=
  (mem_of_mem_firstsAfter h).1

theorem firstsAfter_nodup (seen : List String) (as : List α) :
    ((firstsAfter name seen as).map name).Nodup := by
  induction as generalizing seen with
  | nil => exact List.nodup_nil
  | cons b rest ih =>
      by_cases hb : name b ∈ seen
      · simpa [firstsAfter, hb] using ih seen
      · -- Whatever comes later was looked at with the name of `b` among those seen.
        have hnew : name b ∉ (firstsAfter name (name b :: seen) rest).map name := by
          intro hmem
          rcases List.mem_map.1 hmem with ⟨a, ha, hname⟩
          exact (mem_of_mem_firstsAfter ha).2 (hname ▸ List.mem_cons_self)
        simpa [firstsAfter, hb] using ⟨by simpa using hnew, ih (name b :: seen)⟩

theorem firsts_nodup (as : List α) : ((firsts name as).map name).Nodup := firstsAfter_nodup [] as

theorem exists_mem_firstsAfter {seen : List String} {as : List α} {a : α} (ha : a ∈ as)
    (hnew : name a ∉ seen) : ∃ b ∈ firstsAfter name seen as, name b = name a := by
  induction as generalizing seen with
  | nil => cases ha
  | cons c rest ih =>
      by_cases hc : name c ∈ seen
      · have hrest : a ∈ rest :=
          (List.mem_cons.1 ha).resolve_left fun hac => hnew (hac ▸ hc)
        simpa [firstsAfter, hc] using ih hrest hnew
      · by_cases hname : name a = name c
        · exact ⟨c, by simp [firstsAfter, hc], hname.symm⟩
        · have hrest : a ∈ rest :=
            (List.mem_cons.1 ha).resolve_left fun hac => hname (hac ▸ rfl)
          have hnew' : name a ∉ name c :: seen := by simp [hname, hnew]
          rcases ih hrest hnew' with ⟨b, hb, hba⟩
          exact ⟨b, by simp [firstsAfter, hc, hb], hba⟩

/-- No name gets lost. -/
theorem exists_mem_firsts (name : α → String) {as : List α} {a : α} (ha : a ∈ as) :
    ∃ b ∈ firsts name as, name b = name a :=
  exists_mem_firstsAfter ha List.not_mem_nil

theorem firsts_ne_nil {as : List α} (h : as ≠ []) : firsts name as ≠ [] := by
  rcases List.exists_mem_of_ne_nil as h with ⟨a, ha⟩
  rcases exists_mem_firsts name ha with ⟨b, hb, -⟩
  exact List.ne_nil_of_mem hb

theorem mem_put {a b : α} {as : List α} (h : b ∈ put name a as) : b = a ∨ b ∈ as := by
  induction as with
  | nil => exact .inl (List.mem_singleton.1 h)
  | cons c rest ih =>
      by_cases hname : name c = name a
      · have hcases : b = a ∨ b ∈ rest := by simpa [put, hname] using h
        exact hcases.imp_right (List.mem_cons_of_mem c)
      · have hcases : b = c ∨ b ∈ put name a rest := by simpa [put, hname] using h
        rcases hcases with rfl | hrest
        · exact .inr List.mem_cons_self
        · exact (ih hrest).imp_right (List.mem_cons_of_mem c)

end Distinct

/-! ## Sizes -/

namespace Viewport

/-- Neither the width nor the height is zero. -/
def HasSize (v : Viewport) : Prop := 1 ≤ v.width ∧ 1 ≤ v.height

theorem hasSize_iff (v : Viewport) : v.HasSize ↔ ¬ (v.width = 0 ∨ v.height = 0) := by
  unfold HasSize
  omega

theorem dimension_pos {digits : List Char} {n : Nat} (h : dimension digits = .ok n) : 1 ≤ n := by
  unfold dimension at h
  split at h
  · cases h
  · cases h
  -- The reader of digits turns down a zero before anything else is done with it.
  case h_3 m hzero _ =>
    have hm : m = n := Except.ok.inj h
    have hne : m ≠ 0 := fun h0 => hzero (h0 ▸ rfl)
    omega

theorem ofToken_hasSize {token : String} {v : Viewport} (h : ofToken token = .ok v) :
    v.HasSize := by
  unfold ofToken at h
  split at h
  · cases h
  · rcases exists_of_bind_ok h with ⟨width, hwidth, h⟩
    rcases exists_of_map_ok h with ⟨height, hheight, rfl⟩
    exact ⟨dimension_pos hwidth, dimension_pos hheight⟩

end Viewport

namespace Catalog

/-- All presets have a size. -/
def HasSizes (c : Catalog) : Prop := ∀ v ∈ c.presets, v.HasSize

variable {c c' : Catalog}

theorem standard_hasSizes : standard.HasSizes := by
  unfold HasSizes Viewport.HasSize
  decide

theorem HasSizes.addPreset (h : c.HasSizes) {v : Viewport} (hv : v.HasSize) :
    (c.addPreset v).HasSizes := by
  intro w hw
  rcases Distinct.mem_put hw with rfl | hw
  · exact hv
  · exact h w hw

theorem addGroup_presets {name : String} {members : List String}
    (h : c.addGroup name members = .ok c') : c'.presets = c.presets := by
  unfold addGroup at h
  split at h
  · cases h
  · rw [← Except.ok.inj h]

theorem HasSizes.addGroup (hc : c.HasSizes) {name : String} {members : List String}
    (h : c.addGroup name members = .ok c') : c'.HasSizes := by
  unfold HasSizes
  rw [addGroup_presets h]
  exact hc

theorem HasSizes.preset (hc : c.HasSizes) {name : String} {v : Viewport}
    (h : c.preset? name = some v) : v.HasSize :=
  hc v (List.mem_of_find?_eq_some h)

/-- A token stands for presets, or for a viewport that it gives itself. -/
theorem HasSizes.lookUp (hc : c.HasSizes) {token : String} {vs : List Viewport}
    (h : c.lookUp token = .ok vs) : ∀ v ∈ vs, v.HasSize := by
  unfold Catalog.lookUp at h
  split at h
  · cases h
  · split at h
    · -- A viewport given on the spot has its size from the token.
      rcases exists_of_map_ok h with ⟨v, hv, rfl⟩
      simpa using Viewport.ofToken_hasSize hv
    · -- All others are presets, under their own name or as members of a group.
      cases hpreset : c.preset? token with
      | some v =>
          have hvs : vs = [v] := by simpa [hpreset, eq_comm] using h
          rw [hvs]
          simpa using hc.preset hpreset
      | none =>
          cases hgroup : c.group? token with
          | none => simp [hpreset, hgroup] at h
          | some members =>
              have hvs : members.filterMap c.preset? = vs := by simpa [hpreset, hgroup] using h
              intro v hv
              rcases List.mem_filterMap.1 (hvs ▸ hv) with ⟨member, -, hmember⟩
              exact hc.preset hmember

theorem HasSizes.viewports (hc : c.HasSizes) {token : String} {vs : List Viewport}
    (h : c.viewports token = .ok vs) : ∀ v ∈ vs, v.HasSize := by
  unfold Catalog.viewports at h
  dsimp only at h
  cases hlook : c.lookUp (Text.trim token) with
  | error fault =>
      rw [hlook] at h
      cases h
  | ok found =>
      rw [hlook] at h
      have hvs : found = vs := Except.ok.inj h
      exact hvs ▸ hc.lookUp hlook

theorem exists_of_expand {tokens : List String} {vs : List Viewport}
    (h : c.expand tokens = .ok vs) :
    ∃ lists, tokens.mapM c.viewports = .ok lists ∧ Distinct.firsts Viewport.name lists.flatten = vs :=
  exists_of_map_ok h

theorem HasSizes.expand (hc : c.HasSizes) {tokens : List String} {vs : List Viewport}
    (h : c.expand tokens = .ok vs) : ∀ v ∈ vs, v.HasSize := by
  rcases exists_of_expand h with ⟨lists, hlists, rfl⟩
  intro v hv
  rcases List.mem_flatten.1 (Distinct.mem_of_mem_firsts hv) with ⟨found, hfound, hmem⟩
  rcases mem_of_mapM_ok hlists hfound with ⟨token, -, htoken⟩
  exact hc.viewports htoken v hmem

theorem expand_nodup {tokens : List String} {vs : List Viewport}
    (h : c.expand tokens = .ok vs) : (vs.map Viewport.name).Nodup := by
  rcases exists_of_expand h with ⟨lists, -, rfl⟩
  exact Distinct.firsts_nodup lists.flatten

end Catalog

/-! ## Settings -/

namespace Settings

variable {s : Settings}

/-- Settings pass validation if they name at most one site, leave something to try, and give a size
to each of their presets. -/
theorem validate_ok_iff (s : Settings) :
    s.validate = .ok () ↔
      ¬ (s.baseUrl.isSome ∧ s.serveDir.isSome) ∧ 1 ≤ s.portAttempts ∧
        (∀ w, s.workers = some w → 1 ≤ w) ∧ ∀ v ∈ s.presets, v.HasSize := by
  have hports : 1 ≤ s.portAttempts ↔ ¬ s.portAttempts = 0 := by omega
  have hworkers : (∀ w, s.workers = some w → 1 ≤ w) ↔ ¬ s.workers = some 0 := by
    cases s.workers with
    | none => simp
    | some w => simp [Nat.one_le_iff_ne_zero]
  have hpresets : (∀ v ∈ s.presets, v.HasSize) ↔
      s.presets.find? (fun v => v.width = 0 || v.height = 0) = none := by
    simp [List.find?_eq_none, Viewport.hasSize_iff]
  rw [hports, hworkers, hpresets, validate]
  -- The checks are made one after the other, and the first that fails is told.
  by_cases hsites : s.baseUrl.isSome ∧ s.serveDir.isSome
  · simp [hsites]
  · by_cases hnone : s.portAttempts = 0
    · simp [hsites, hnone]
    · by_cases hidle : s.workers = some 0
      · simp [hsites, hnone, hidle]
      · cases s.presets.find? fun v => v.width = 0 || v.height = 0 <;>
          simp [hsites, hnone, hidle]

theorem catalog_hasSizes (hsizes : ∀ v ∈ s.presets, v.HasSize) {c : Catalog}
    (h : s.catalog = .ok c) : c.HasSizes := by
  have hpresets : (s.presets.foldl Catalog.addPreset .standard).HasSizes :=
    List.foldlRecOn s.presets Catalog.addPreset Catalog.standard_hasSizes
      fun _ hc v hv => hc.addPreset (hsizes v hv)
  exact foldlM_ok_of_step (fun group hc hnext => hc.addGroup hnext) hpresets h

theorem resolveViewports_hasSize (hsizes : ∀ v ∈ s.presets, v.HasSize) {vs : List Viewport}
    (h : s.resolveViewports = .ok vs) : ∀ v ∈ vs, v.HasSize := by
  rcases exists_of_bind_ok h with ⟨c, hc, hvs⟩
  exact (catalog_hasSizes hsizes hc).expand hvs

theorem resolveViewports_nodup {vs : List Viewport} (h : s.resolveViewports = .ok vs) :
    (vs.map Viewport.name).Nodup := by
  rcases exists_of_bind_ok h with ⟨c, -, hvs⟩
  exact Catalog.expand_nodup hvs

end Settings
end LayoutAudit
