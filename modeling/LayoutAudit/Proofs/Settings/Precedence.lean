import LayoutAudit.CommandLine.Execution
import LayoutAudit.Proofs.Viewport.Catalog

/-!
# Proofs.Settings.Precedence — what was said last of a setting counts

An overlay says something of some settings and nothing of the others.  The address and the directory
of a site are two ways to give one setting, and whichever of them is put in place clears the other.
Seen setting by setting, overlays that follow one another are a list of values, of which the last
one counts.

* `Setting`, `Settings.value` — the settings that an overlay can replace, one by one;
* `Settings.SameBeside` — the settings that no overlay can replace;
* `Overlay.said` — what an overlay says of a setting, in the order in which it is put in place;
* `Overlay.followedBy` — the one overlay that takes each setting from the later one that gives it;
* `Overlay.site_of_gives` — one way to name a site is left;
* `Settings.value_under`, `Settings.under_congr` — what comes of overlays one after the other;
* `Settings.load_ok_iff`, `CommandLine.Execution.settings_ok_iff` — the settings a run is made with;
* `Overlay.last_given_wins` — how overlays compose, and what they leave alone.
-/

namespace LayoutAudit

open CommandLine

/-- What an overlay can replace.  The two ways to name a site are one setting. -/
inductive Setting where
  | viewports
  | scenarios
  | workers
  | site
  | port
  | browser
  | headless
  | pretty

/-- The values of a setting; that of the site is its address and its directory. -/
abbrev Setting.Value : Setting → Type
  | viewports => List String
  | scenarios => List String
  | workers => Option Nat
  | site => Option String × Option String
  | port => Nat
  | browser => BrowserKind
  | headless => Bool
  | pretty => Bool

namespace Settings

variable {s s' : Settings}

/-! ## Setting by setting -/

def value (s : Settings) : (x : Setting) → x.Value
  | .viewports => s.viewports
  | .scenarios => s.scenarios
  | .workers => s.workers
  | .site => (s.baseUrl, s.serveDir)
  | .port => s.port
  | .browser => s.browser
  | .headless => s.headless
  | .pretty => s.pretty

/-- All that no overlay can replace is the same. -/
structure SameBeside (s s' : Settings) : Prop where
  portAttempts : s.portAttempts = s'.portAttempts
  presets : s.presets = s'.presets
  groups : s.groups = s'.groups
  timeout : s.timeout = s'.timeout
  scripts : s.scripts = s'.scripts

theorem SameBeside.refl (s : Settings) : SameBeside s s := ⟨rfl, rfl, rfl, rfl, rfl⟩

theorem SameBeside.symm (h : SameBeside s s') : SameBeside s' s :=
  ⟨h.portAttempts.symm, h.presets.symm, h.groups.symm, h.timeout.symm, h.scripts.symm⟩

theorem SameBeside.trans {s'' : Settings} (h : SameBeside s s') (h' : SameBeside s' s'') :
    SameBeside s s'' :=
  ⟨h.portAttempts.trans h'.portAttempts, h.presets.trans h'.presets, h.groups.trans h'.groups,
    h.timeout.trans h'.timeout, h.scripts.trans h'.scripts⟩

/-- There is nothing to settings but what can be replaced and what cannot. -/
theorem eq_of_value (hvalue : ∀ x, s.value x = s'.value x) (hbeside : SameBeside s s') :
    s = s' := by
  have hsite := Prod.mk.inj (hvalue .site)
  cases s
  cases s'
  rw [mk.injEq]
  exact ⟨hsite.1, hsite.2, hvalue .port, hbeside.portAttempts, hvalue .viewports, hbeside.presets,
    hbeside.groups, hvalue .scenarios, hvalue .workers, hvalue .browser, hvalue .headless,
    hbeside.timeout, hvalue .pretty, hbeside.scripts⟩

/-- Two ways to name a site are the only reason to complain of two sites. -/
theorem validate_ne_twoSites (h : ¬ (s.baseUrl.isSome ∧ s.serveDir.isSome)) :
    s.validate ≠ .error (.configuration .twoSites) := by
  have hsites : ¬ (s.baseUrl.isSome && s.serveDir.isSome) = true := by simpa using h
  rw [validate, if_neg hsites]
  split_ifs
  · simp
  · simp
  · cases s.presets.find? fun v => v.width = 0 || v.height = 0 <;> simp

end Settings

namespace Overlay

/-! ## One overlay -/

/-- What an overlay says of a setting, in the order in which it is put in place. -/
def said (o : Overlay) : (x : Setting) → List x.Value
  | .viewports => if o.viewports.isEmpty then [] else [o.viewports]
  | .scenarios => if o.scenarios.isEmpty then [] else [o.scenarios]
  | .workers => o.workers.toList.map some
  | .site => o.serve.toList.map (fun dir => (.none, some dir)) ++
      o.baseUrl.toList.map fun url => (some url, .none)
  | .port => o.port.toList
  | .browser => o.browser.toList
  | .headless => if o.headed then [false] else []
  | .pretty => if o.pretty then [true] else []

/-- Does an overlay say something of a setting? -/
def gives (o : Overlay) (x : Setting) : Bool := !(o.said x).isEmpty

/-- The one overlay that takes each setting from the later one if that gives it, and otherwise from
the earlier one. -/
def followedBy (earlier later : Overlay) : Overlay :=
  let giver (x : Setting) : Overlay := if later.gives x then later else earlier
  { viewports := (giver .viewports).viewports
    scenarios := (giver .scenarios).scenarios
    workers := (giver .workers).workers
    serve := (giver .site).serve
    baseUrl := (giver .site).baseUrl
    port := (giver .port).port
    browser := (giver .browser).browser
    headed := (giver .headless).headed
    pretty := (giver .pretty).pretty }

variable (o earlier later : Overlay) (s : Settings)

/-- A setting becomes what is said of it last, and stays as it is if nothing is said of it. -/
theorem value_apply (x : Setting) :
    (o.apply s).value x = (o.said x).getLast?.getD (s.value x) := by
  cases x with
  | viewports => cases h : o.viewports.isEmpty <;> simp [Settings.value, apply, said, h]
  | scenarios => cases h : o.scenarios.isEmpty <;> simp [Settings.value, apply, said, h]
  | workers => cases h : o.workers <;> simp [Settings.value, apply, said, h]
  | site =>
      -- The directory is put in place before the address, which clears it again.
      cases hurl : o.baseUrl <;> cases hdir : o.serve <;>
        simp [Settings.value, apply, site, said, hurl, hdir]
  | port => cases h : o.port <;> simp [Settings.value, apply, said, h]
  | browser => cases h : o.browser <;> simp [Settings.value, apply, said, h]
  | headless => cases h : o.headed <;> simp [Settings.value, apply, said, h]
  | pretty => cases h : o.pretty <;> simp [Settings.value, apply, said, h]

theorem sameBeside_apply : Settings.SameBeside (o.apply s) s := ⟨rfl, rfl, rfl, rfl, rfl⟩

theorem said_followedBy (x : Setting) :
    (earlier.followedBy later).said x = (if later.gives x then later else earlier).said x := by
  cases x <;> rfl

theorem gives_site_iff : o.gives .site = true ↔ o.serve.isSome ∨ o.baseUrl.isSome := by
  cases hdir : o.serve <;> cases hurl : o.baseUrl <;> simp [gives, said, hdir, hurl]

/-- Of the two ways to name a site the address is put in place last. -/
theorem getLast?_said_site :
    (o.said .site).getLast? =
      (o.baseUrl.map fun url => (some url, .none)).or
        (o.serve.map fun dir => (.none, some dir)) := by
  cases hdir : o.serve <;> cases hurl : o.baseUrl <;> simp [said, hdir, hurl]

/-- Whatever was there before, an overlay that gives the site leaves one way to name it. -/
theorem site_of_gives (h : o.gives .site = true) :
    (o.apply s).baseUrl = o.baseUrl ∧
      (o.apply s).serveDir = if o.baseUrl.isSome then .none else o.serve := by
  have hvalue : ((o.apply s).baseUrl, (o.apply s).serveDir) = _ := o.value_apply s .site
  rw [getLast?_said_site] at hvalue
  rw [gives_site_iff] at h
  cases hurl : o.baseUrl with
  | some url => simpa [hurl] using hvalue
  | none =>
      cases hdir : o.serve with
      | some dir => simpa [hurl, hdir] using hvalue
      | none => simp [hurl, hdir] at h

theorem site_of_not_gives (h : o.gives .site = false) :
    (o.apply s).baseUrl = s.baseUrl ∧ (o.apply s).serveDir = s.serveDir := by
  have hvalue := o.value_apply s .site
  have hnone : o.said .site = [] := by simpa [gives] using h
  rw [hnone] at hvalue
  exact Prod.mk.inj hvalue

end Overlay

namespace Settings

open Overlay (value_apply sameBeside_apply)

variable {s s' : Settings}

/-! ## Overlays one after the other -/

/-- The settings under overlays that are put in place one after the other. -/
def under (s : Settings) (overlays : List Overlay) : Settings :=
  overlays.foldl (fun s o => o.apply s) s

theorem sameBeside_under (s : Settings) (overlays : List Overlay) :
    SameBeside (s.under overlays) s := by
  induction overlays generalizing s with
  | nil => exact .refl s
  | cons o rest ih => exact (ih (o.apply s)).trans (sameBeside_apply o s)

/-- A setting becomes what was said of it last, by whichever overlay. -/
theorem value_under (s : Settings) (overlays : List Overlay) (x : Setting) :
    (s.under overlays).value x =
      (overlays.flatMap (·.said x)).getLast?.getD (s.value x) := by
  induction overlays generalizing s with
  | nil => rfl
  | cons o rest ih =>
      calc
        (s.under (o :: rest)).value x
            = (rest.flatMap (·.said x)).getLast?.getD ((o.apply s).value x) := ih (o.apply s)
        _ = (rest.flatMap (·.said x)).getLast?.getD
              ((o.said x).getLast?.getD (s.value x)) := by rw [value_apply]
        _ = ((o :: rest).flatMap (·.said x)).getLast?.getD (s.value x) := by
              rw [List.flatMap_cons, List.getLast?_append, Option.getD_or]

/-- Overlays come to the same if the same is said last of each setting. -/
theorem under_congr {overlays overlays' : List Overlay}
    (h : ∀ x, (overlays.flatMap (·.said x)).getLast? = (overlays'.flatMap (·.said x)).getLast?)
    (s : Settings) : s.under overlays = s.under overlays' := by
  apply eq_of_value
  · intro x
    rw [value_under, value_under, h]
  · exact (sameBeside_under s overlays).trans (sameBeside_under s overlays').symm

end Settings

namespace Overlay

variable (o earlier later : Overlay) (s : Settings)

theorem getLast?_said_followedBy (x : Setting) :
    ((earlier.followedBy later).said x).getLast? = (earlier.said x ++ later.said x).getLast? := by
  rw [said_followedBy, List.getLast?_append]
  by_cases hgives : later.gives x = true
  · have hsome : later.said x ≠ [] := by simpa [gives] using hgives
    rw [if_pos hgives, List.getLast?_eq_some_getLast hsome, Option.some_or]
  · have hnone : later.said x = [] := by simpa [gives] using hgives
    rw [if_neg hgives, hnone, List.getLast?_nil, Option.none_or]

/-- Two overlays that follow one another are one. -/
theorem apply_apply : later.apply (earlier.apply s) = (earlier.followedBy later).apply s := by
  have hlast (x : Setting) : ([earlier, later].flatMap (·.said x)).getLast? =
      ([earlier.followedBy later].flatMap (·.said x)).getLast? := by
    simp only [List.flatMap_cons, List.flatMap_nil, List.append_nil, getLast?_said_followedBy]
  exact Settings.under_congr hlast s

theorem followedBy_self : o.followedBy o = o := by
  simp [followedBy]

end Overlay

/-! ## The settings of a run -/

/-- A script comes in only if there is none. -/
theorem Settings.overlaidWith_eq (s : Settings) (o : Overlay) :
    s.overlaidWith o =
      { o.apply s with
        scripts := if s.scripts = [] then [Standard.script] else s.scripts } := by
  have hscripts : (o.apply s).scripts = s.scripts := rfl
  by_cases hnone : s.scripts = []
  · simp [overlaidWith, withScript, hscripts, hnone]
  · rw [overlaidWith, withScript, hscripts, if_neg (by simpa using hnone), if_neg hnone, ← hscripts]

/-- There are settings if the run file can be read, or if there is none. -/
theorem Settings.load_ok_iff {runFile : Option String} {o : Overlay} {s' : Settings} :
    load runFile o = .ok s' ↔
      ∃ s, runFile.elim (.ok standard) ofYaml = .ok s ∧ s.overlaidWith o = s' := by
  have hload : load runFile o =
      (do return (← runFile.elim (.ok standard) ofYaml).overlaidWith o) := by
    cases runFile <;> rfl
  rw [hload]
  constructor
  · exact exists_of_map_ok
  · rintro ⟨s, hs, rfl⟩
    rw [hs]
    rfl

/-- A command has its settings from the same place. -/
theorem CommandLine.Execution.settings_ok_iff {σ : Type} {w : World σ} {i : Invocation}
    {s' : Settings} :
    settings w i = .ok s' ↔
      ∃ s, w.runFile.elim (.ok .standard) (fun file => file.2.bind Settings.ofYaml) = .ok s ∧
        s.overlaidWith i.overlay = s' := by
  unfold settings
  cases w.runFile with
  | none => simp
  | some file =>
      cases hread : file.2.bind Settings.ofYaml <;> simp [hread]

namespace Overlay

/-! ## How overlays compose -/

/-- What overlays do to settings, whatever the settings were.

1. Overlays are put in place one after the other, any number of them.  Each setting becomes what was
   said of it last, and stays as it was if nothing was said of it.
2. Two of them come to the same as the one that takes each setting from the later one if that gives
   it, and otherwise from the earlier one.  Put in place a second time, an overlay changes nothing.
3. An overlay that names a site leaves one way to name it, which is the address if there is one.
   The settings, with or without a script of their own, are never found to name two sites.  An
   overlay that names no site leaves both as they are.
4. Presets, groups, the ports that are tried, the time that is waited and the scripts stay.
5. Loading adds a script only to settings without one, for a run file as for a command. -/
theorem last_given_wins (o : Overlay) (s : Settings) :
    (∀ (overlays : List Overlay) (x : Setting),
      (overlays.foldl (fun s o => o.apply s) s).value x =
        (overlays.flatMap (·.said x)).getLast?.getD (s.value x)) ∧
    (∀ later : Overlay, later.apply (o.apply s) = (o.followedBy later).apply s) ∧
    o.apply (o.apply s) = o.apply s ∧
    (o.serve.isSome ∨ o.baseUrl.isSome →
      (o.apply s).baseUrl = o.baseUrl ∧
      ((o.apply s).serveDir = if o.baseUrl.isSome then .none else o.serve) ∧
      ¬ ((o.apply s).baseUrl.isSome ∧ (o.apply s).serveDir.isSome) ∧
      (o.apply s).validate ≠ .error (.configuration .twoSites) ∧
      (s.overlaidWith o).validate ≠ .error (.configuration .twoSites)) ∧
    (o.serve = .none → o.baseUrl = .none →
      (o.apply s).baseUrl = s.baseUrl ∧ (o.apply s).serveDir = s.serveDir) ∧
    Settings.SameBeside (o.apply s) s ∧
    (∀ (runFile : Option String) (loaded : Settings),
      Settings.load runFile o = .ok loaded ↔
        ∃ s, runFile.elim (.ok .standard) Settings.ofYaml = .ok s ∧
          { o.apply s with
            scripts := if s.scripts = [] then [Standard.script] else s.scripts } = loaded) ∧
    ∀ {σ : Type} (w : Execution.World σ) (i : Invocation) (loaded : Settings),
      Execution.settings w i = .ok loaded ↔
        ∃ s, w.runFile.elim (.ok .standard) (fun file => file.2.bind Settings.ofYaml) = .ok s ∧
          { i.overlay.apply s with
            scripts := if s.scripts = [] then [Standard.script] else s.scripts } = loaded := by
  refine ⟨s.value_under, fun later => o.apply_apply later s, ?_, ?_, ?_, o.sameBeside_apply s,
    ?_, ?_⟩
  · rw [apply_apply, followedBy_self]
  · intro hgives
    rcases site_of_gives o s (o.gives_site_iff.2 hgives) with ⟨hurl, hdir⟩
    have hone : ¬ ((o.apply s).baseUrl.isSome ∧ (o.apply s).serveDir.isSome) := by
      rw [hurl, hdir]
      cases o.baseUrl <;> simp
    refine ⟨hurl, hdir, hone, Settings.validate_ne_twoSites hone, ?_⟩
    rw [Settings.overlaidWith_eq]
    exact Settings.validate_ne_twoSites hone
  · intro hdir hurl
    have hnone : o.gives .site = false := by simp [Bool.eq_false_iff, gives_site_iff, hdir, hurl]
    exact o.site_of_not_gives s hnone
  · intro runFile loaded
    simp only [Settings.load_ok_iff, Settings.overlaidWith_eq]
  · intro σ w i loaded
    simp only [Execution.settings_ok_iff, Settings.overlaidWith_eq]

/-- A run file names two sites.  An overlay with a directory settles which one is meant, also behind
an overlay with an address, and an overlay that only shows the browser does not. -/
theorem last_given_wins_over_two_sites :
    let s : Settings := { Settings.standard with
      baseUrl := some "http://localhost:3000", serveDir := some "public" }
    let addressed : Overlay := { none with
      baseUrl := some "http://localhost:4173", viewports := ["all"], headed := true }
    let served : Overlay := { none with serve := some "dist", viewports := ["mobile"] }
    let shown : Overlay := { none with headed := true }
    s.validate = .error (.configuration .twoSites) ∧
      (served.serve.isSome ∨ served.baseUrl.isSome) ∧
      (served.apply s).baseUrl = .none ∧ (served.apply s).serveDir = some "dist" ∧
      (s.overlaidWith served).validate ≠ .error (.configuration .twoSites) ∧
      served.apply (addressed.apply s) = { s with
        baseUrl := .none, serveDir := some "dist", viewports := ["mobile"], headless := false } ∧
      shown.serve = .none ∧ shown.baseUrl = .none ∧
      (shown.apply s).baseUrl = some "http://localhost:3000" ∧
      (shown.apply s).serveDir = some "public" ∧
      Settings.load .none served = .ok { served.apply .standard with
        scripts := [Standard.script] } := by
  intro s addressed served shown
  rcases last_given_wins served s with ⟨-, -, -, hsite, -, -, hload, -⟩
  rcases hsite (.inl rfl) with ⟨hurl, hdir, -, -, hvalid⟩
  rcases last_given_wins shown s with ⟨-, -, -, -, hkept, -⟩
  refine ⟨rfl, .inl rfl, hurl, hdir, hvalid, ?_, rfl, rfl, (hkept rfl rfl).1, (hkept rfl rfl).2,
    (hload .none _).2 ⟨.standard, rfl, rfl⟩⟩
  exact (last_given_wins addressed s).2.1 served

end Overlay
end LayoutAudit
