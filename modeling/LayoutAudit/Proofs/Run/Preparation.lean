import Mathlib.Data.List.Nodup
import Mathlib.Data.List.ProdSigma
import LayoutAudit.Run.Outcome
import LayoutAudit.Proofs.Viewport.Catalog

/-!
# Proofs.Run.Preparation — what a run that can begin guarantees

Preparing a run looks at the settings, registers their scripts, finds the viewports and makes the
plan.  Each of these steps sees to a part of what the run relies on later, and nothing that comes
after it takes that part back.

* `Registry.Built` — the registries that calls of registration lead to;
* `Registry.Built.scenarioNames_nodup`, `Registry.Built.addScripts` — they stay well-formed;
* `Plan.pairs_product`, `Plan.selected_spec`, `Plan.build_spec` — the entries of a plan;
* `Plan.FoundIn`, `Plan.build_found` — their scenarios are registered;
* `Run.Ready`, `Run.prepare_ready` — the guarantees of a prepared run.
-/

namespace LayoutAudit

/-! ## Registries -/

namespace Registry

variable {r r' : Registry}

/-- Registries that are made by registering, one call after the other; a call that fails leaves what
was there. -/
inductive Built : Registry → Prop where
  | empty : Built empty
  | spec {r r' : Registry} {name : String} {spec : Spec} :
      Built r → r.addSpec name spec = .ok r' → Built r'
  | scenario {r r' : Registry} {s : Scenario} :
      Built r → r.addScenario s = .ok r' → Built r'
  | script {r r' : Registry} {script : Script} :
      Built r → r.addScript script = .ok r' → Built r'

theorem addSpec_scenarios {name : String} {spec : Spec} (h : r.addSpec name spec = .ok r') :
    r'.scenarios = r.scenarios := by
  unfold addSpec at h
  split at h
  · cases h
  · rw [← Except.ok.inj h]

theorem addScenario_ok {s : Scenario} (h : r.addScenario s = .ok r') :
    s.name ∉ r.scenarioNames ∧ r'.scenarioNames = r.scenarioNames ++ [s.name] := by
  unfold addScenario at h
  split at h
  · cases h
  · rename_i hfree
    rw [← Except.ok.inj h]
    exact ⟨by simpa using hfree, by simp [scenarioNames]⟩

/-- A script is registered as the scenario that it is compiled to. -/
theorem exists_of_addScript {script : Script} (h : r.addScript script = .ok r') :
    ∃ s, r.compile script = .ok s ∧ r.addScenario s = .ok r' :=
  exists_of_bind_ok h

theorem addScenario_nodup {s : Scenario} (hr : r.scenarioNames.Nodup)
    (h : r.addScenario s = .ok r') : r'.scenarioNames.Nodup := by
  rcases addScenario_ok h with ⟨hfree, hnames⟩
  rw [hnames, List.nodup_append]
  refine ⟨hr, List.nodup_singleton s.name, ?_⟩
  intro name hname last hlast heq
  rw [List.mem_singleton.1 hlast] at heq
  exact hfree (heq ▸ hname)

theorem Built.scenarioNames_nodup (h : Built r) : r.scenarioNames.Nodup := by
  induction h with
  | empty => exact List.nodup_nil
  | spec _ hadd ih =>
      rw [scenarioNames, addSpec_scenarios hadd]
      exact ih
  | scenario _ hadd ih => exact addScenario_nodup ih hadd
  | script _ hadd ih =>
      rcases exists_of_addScript hadd with ⟨s, -, hscenario⟩
      exact addScenario_nodup ih hscenario

theorem Built.addScripts (h : Built r) {scripts : List Script}
    (hadd : scripts.foldlM Registry.addScript r = .ok r') : Built r' :=
  foldlM_ok_of_step (fun _ hr hnext => .script hr hnext) h hadd

theorem scenario_name {name : String} {s : Scenario} (h : r.scenario name = .ok s) :
    s.name = name := by
  unfold Registry.scenario at h
  split at h
  · rename_i found hfound
    rw [← Except.ok.inj h]
    simpa using List.find?_some hfound
  · cases h

theorem exists_scenario_of_mem {name : String} (h : name ∈ r.scenarioNames) :
    ∃ s, r.scenario name = .ok s := by
  unfold Registry.scenario
  rcases List.mem_map.1 h with ⟨s, hs, hname⟩
  cases hfind : r.scenarios.find? (·.name == name) with
  | some found => exact ⟨found, rfl⟩
  | none => exact absurd hname (by simpa using List.find?_eq_none.1 hfind s hs)

end Registry

/-! ## Plans -/

namespace Plan

def Entry.pair (e : Entry) : String × String := (e.scenario, e.viewport.name)

theorem entries_product (scenarios : List String) (viewports : List Viewport) :
    (product scenarios viewports).entries.map (fun e => (e.scenario, e.viewport)) =
      scenarios ×ˢ viewports := by
  have hpairs (pairs : List (String × Viewport)) :
      pairs.zipIdx.map ((fun e : Entry => (e.scenario, e.viewport)) ∘
        fun p => ⟨p.2, p.1.1, p.1.2⟩) = pairs := by
    simp [Function.comp_def]
  rw [product, List.map_map]
  exact hpairs _

theorem mem_product {scenarios : List String} {viewports : List Viewport} {e : Entry}
    (h : e ∈ (product scenarios viewports).entries) :
    e.scenario ∈ scenarios ∧ e.viewport ∈ viewports := by
  have hpair : (e.scenario, e.viewport) ∈ scenarios ×ˢ viewports := by
    rw [← entries_product]
    exact List.mem_map_of_mem h
  exact List.mem_product.1 hpair

theorem product_ne_nil {scenarios : List String} {viewports : List Viewport}
    (hs : scenarios ≠ []) (hv : viewports ≠ []) : (product scenarios viewports).entries ≠ [] := by
  rcases List.exists_mem_of_ne_nil scenarios hs with ⟨s, hs⟩
  rcases List.exists_mem_of_ne_nil viewports hv with ⟨v, hv⟩
  have hpair : (s, v) ∈ (product scenarios viewports).entries.map
      fun e => (e.scenario, e.viewport) := by
    rw [entries_product]
    exact List.mem_product.2 ⟨hs, hv⟩
  rcases List.mem_map.1 hpair with ⟨e, he, -⟩
  exact List.ne_nil_of_mem he

theorem pairs_product (scenarios : List String) (viewports : List Viewport) :
    (product scenarios viewports).entries.map Entry.pair =
      scenarios ×ˢ viewports.map Viewport.name := by
  have hnames : Entry.pair =
      Prod.map id Viewport.name ∘ fun e : Entry => (e.scenario, e.viewport) := rfl
  rw [hnames, ← List.map_map, entries_product]
  simp [SProd.sprod, List.product, List.map_flatMap, Function.comp_def]

theorem selected_found {r : Registry} {selection names : List String}
    (h : selected r selection = .ok names) : ∀ name ∈ names, ∃ s, r.scenario name = .ok s := by
  unfold selected at h
  split at h
  · -- Where nothing is selected, everything that is registered is.
    have hnames : r.scenarioNames = names := Except.ok.inj h
    rw [← hnames]
    exact fun name hname => Registry.exists_scenario_of_mem hname
  · rcases exists_of_map_ok h with ⟨scenarios, hfound, rfl⟩
    intro name hname
    rcases List.mem_map.1 (Distinct.mem_of_mem_firsts hname) with ⟨s, hs, rfl⟩
    rcases mem_of_mapM_ok hfound hs with ⟨asked, -, hasked⟩
    -- A scenario is found under its own name.
    rw [Registry.scenario_name hasked]
    exact ⟨s, hasked⟩

/-- The selected scenarios are registered, and each of them is selected once. -/
theorem selected_spec {r : Registry} (hr : r.scenarioNames.Nodup) (hne : r.scenarios ≠ [])
    {selection names : List String} (h : selected r selection = .ok names) :
    names ≠ [] ∧ names.Nodup ∧ ∀ name ∈ names, ∃ s, r.scenario name = .ok s := by
  have hregistered := selected_found h
  unfold selected at h
  split at h
  · have hnames : r.scenarioNames = names := Except.ok.inj h
    refine ⟨?_, hnames ▸ hr, hregistered⟩
    rw [← hnames]
    simpa [Registry.scenarioNames] using hne
  · rename_i hsome
    rcases exists_of_map_ok h with ⟨scenarios, hfound, rfl⟩
    have hfirst : scenarios ≠ [] := mapM_ok_ne_nil hfound (by simpa using hsome)
    refine ⟨Distinct.firsts_ne_nil (by simpa using hfirst), ?_, hregistered⟩
    have hfirsts : ((Distinct.firsts id (scenarios.map Scenario.name)).map id).Nodup :=
      Distinct.firsts_nodup _
    simpa using hfirsts

/-- Every scenario of a plan is found. -/
def FoundIn (r : Registry) (p : Plan) : Prop :=
  ∀ entry ∈ p.entries, ∃ scenario, r.scenario entry.scenario = .ok scenario

theorem build_found {r : Registry} {selection : List String} {viewports : List Viewport} {p : Plan}
    (h : build r selection viewports = .ok p) : p.FoundIn r := by
  unfold build at h
  split at h
  · cases h
  · split at h
    · cases h
    · rcases exists_of_map_ok h with ⟨names, hnames, rfl⟩
      intro e he
      exact selected_found hnames e.scenario (mem_product he).1

theorem build_spec {r : Registry} (hr : r.scenarioNames.Nodup) {selection : List String}
    {viewports : List Viewport} (hv : (viewports.map Viewport.name).Nodup) {p : Plan}
    (h : build r selection viewports = .ok p) :
    p.entries ≠ [] ∧ (p.entries.map Entry.pair).Nodup ∧
      ∀ e ∈ p.entries, (∃ s, r.scenario e.scenario = .ok s) ∧ e.viewport ∈ viewports := by
  unfold build at h
  split at h
  · cases h
  · rename_i hscenarios
    split at h
    · cases h
    · rename_i hviewports
      rcases exists_of_map_ok h with ⟨names, hnames, rfl⟩
      rcases selected_spec hr (by simpa using hscenarios) hnames with ⟨hne, hnodup, hfound⟩
      refine ⟨product_ne_nil hne (by simpa using hviewports), ?_, ?_⟩
      · rw [pairs_product]
        exact hnodup.product hv
      · intro e he
        have hmem := mem_product he
        exact ⟨hfound e.scenario hmem.1, hmem.2⟩

end Plan

/-! ## Runs -/

namespace Run

/-- What a run relies on from its beginning. -/
structure Ready (run : Run) : Prop where
  /-- There is something to do. -/
  nonempty : run.plan.entries ≠ []
  /-- Every scenario of the plan is found under its name. -/
  resolves : ∀ e ∈ run.plan.entries,
    ∃ s, run.registry.scenario e.scenario = .ok s ∧ s.name = e.scenario
  hasSize : ∀ e ∈ run.plan.entries, 1 ≤ e.viewport.width ∧ 1 ≤ e.viewport.height
  /-- No scenario is run twice on viewports of one name. -/
  distinct : (run.plan.entries.map fun e => (e.scenario, e.viewport.name)).Nodup
  oneSite : ¬ (run.settings.baseUrl.isSome ∧ run.settings.serveDir.isSome)
  triesPorts : 1 ≤ run.settings.portAttempts
  hasWorkers : ∀ w, run.settings.workers = some w → 1 ≤ w

/-- The steps of a preparation that succeeds. -/
theorem exists_of_prepare {s : Settings} {r : Registry} {run : Run}
    (h : prepare s r = .ok run) :
    s.validate = .ok () ∧ s.scripts.foldlM Registry.addScript r = .ok run.registry ∧
      run.settings = s ∧ ∃ viewports, s.resolveViewports = .ok viewports ∧
        Plan.build run.registry s.scenarios viewports = .ok run.plan := by
  rcases exists_of_bind_ok h with ⟨⟨⟩, hvalid, h⟩
  rcases exists_of_bind_ok h with ⟨registry, hscripts, h⟩
  rcases exists_of_bind_ok h with ⟨viewports, hviewports, h⟩
  rcases exists_of_map_ok h with ⟨plan, hplan, rfl⟩
  refine ⟨hvalid, hscripts, rfl, viewports, ?_, hplan⟩
  -- The viewports are found before their failure is given another form.
  cases hresolve : s.resolveViewports with
  | error e =>
      rw [hresolve] at hviewports
      cases hviewports
  | ok found =>
      rw [hresolve] at hviewports
      have hfound : found = viewports := Except.ok.inj hviewports
      rw [hfound]

theorem found_of_prepare {s : Settings} {r : Registry} {run : Run} (h : prepare s r = .ok run) :
    run.plan.FoundIn run.registry := by
  rcases exists_of_prepare h with ⟨-, -, -, viewports, -, hplan⟩
  exact Plan.build_found hplan

/-- A run that was prepared is ready, whatever it was asked to do and whatever was registered. -/
theorem prepare_ready {s : Settings} {r : Registry} {run : Run} (hr : r.Built)
    (h : prepare s r = .ok run) : run.settings = s ∧ run.Ready := by
  rcases exists_of_prepare h with ⟨hvalid, hscripts, hsettings, viewports, hviewports, hplan⟩
  rcases (Settings.validate_ok_iff s).1 hvalid with ⟨hsites, hports, hworkers, hpresets⟩
  have hnames : run.registry.scenarioNames.Nodup := (hr.addScripts hscripts).scenarioNames_nodup
  rcases Plan.build_spec hnames (Settings.resolveViewports_nodup hviewports) hplan with
    ⟨hne, hdistinct, hentries⟩
  refine ⟨hsettings, ⟨hne, ?_, ?_, hdistinct, ?_, ?_, ?_⟩⟩
  · intro e he
    rcases (hentries e he).1 with ⟨scenario, hfound⟩
    exact ⟨scenario, hfound, Registry.scenario_name hfound⟩
  · intro e he
    exact Settings.resolveViewports_hasSize hpresets hviewports e.viewport (hentries e he).2
  · exact hsettings ▸ hsites
  · exact hsettings ▸ hports
  · exact hsettings ▸ hworkers

/-- Settings with a preset that takes the place of a standard one, a group, and a viewport given on
the spot. -/
def sampleSettings : Settings :=
  { Settings.standard with
    viewports := ["handheld", "tiny=1x1", "mobile"]
    presets := [⟨"mobile", 400, 800⟩]
    groups := [("handheld", ["mobile", "tablet"])]
    scripts := [⟨"home", "", [.navigate "/"]⟩] }

theorem prepare_ready_sample :
    ∃ run, prepare sampleSettings .empty = .ok run ∧ run.settings = sampleSettings ∧ run.Ready ∧
      run.plan.entries.map (fun e => (e.scenario, e.viewport)) =
        [("home", ⟨"mobile", 400, 800⟩), ("home", ⟨"tablet", 768, 1024⟩),
          ("home", ⟨"tiny", 1, 1⟩)] := by
  have hprepare : ∃ run, prepare sampleSettings .empty = .ok run ∧
      run.plan.entries.map (fun e => (e.scenario, e.viewport)) =
        [("home", ⟨"mobile", 400, 800⟩), ("home", ⟨"tablet", 768, 1024⟩),
          ("home", ⟨"tiny", 1, 1⟩)] := ⟨_, rfl, rfl⟩
  rcases hprepare with ⟨run, hrun, hentries⟩
  have hready := prepare_ready .empty hrun
  exact ⟨run, hrun, hready.1, hready.2, hentries⟩

end Run
end LayoutAudit
