import LayoutAudit.Proofs.Registry.Calls
import LayoutAudit.Proofs.Viewport.Expansion

/-!
# Proofs.Run.Planning — the entries of a plan and their places

A plan has an entry for each selected scenario on each viewport.  The entries of a scenario stand
together, in the order of the viewports, so that the place of an entry, which is also its number, is
known from the places of its scenario and of its viewport.

* `getElem?_product` — the places in a product of two lists;
* `Plan.selected_ok_iff`, `Plan.selected_error_iff` — which scenarios are selected;
* `Plan.build_ok_iff` — when there is a plan;
* `Plan.entries_in_place` — how making a plan fails, and where its entries stand.
-/

namespace LayoutAudit

open Distinct (FirstsOf)

theorem getElem?_product {α β : Type} {as : List α} {bs : List β} {i j : Nat} {a : α} {b : β}
    (ha : as[i]? = some a) (hb : bs[j]? = some b) :
    (as ×ˢ bs)[i * bs.length + j]? = some (a, b) := by
  induction as generalizing i with
  | nil => simp at ha
  | cons first rest ih =>
      rw [List.product_cons]
      have hbound : j < bs.length := (List.getElem?_eq_some_iff.1 hb).1
      cases i with
      | zero =>
          rw [List.getElem?_cons_zero, Option.some.injEq] at ha
          rw [Nat.zero_mul, Nat.zero_add, List.getElem?_append_left (by simpa using hbound), ha]
          simp [hb]
      | succ i =>
          -- The pairs of the first item take as many places as there are second components.
          have hplace : (i + 1) * bs.length + j - (bs.map fun b => (first, b)).length =
              i * bs.length + j := by
            rw [List.length_map, Nat.succ_mul]
            omega
          have hlater : (bs.map fun b => (first, b)).length ≤ (i + 1) * bs.length + j := by
            rw [List.length_map, Nat.succ_mul]
            omega
          rw [List.getElem?_append_right hlater, hplace]
          exact ih (by simpa using ha)

namespace Plan

variable {r : Registry} {selection names : List String} {viewports : List Viewport} {p : Plan}

/-! ## Selecting -/

/-- Scenarios are found under the names that were asked for. -/
theorem names_of_found {scenarios : List Scenario} (h : selection.mapM r.scenario = .ok scenarios) :
    scenarios.map Scenario.name = selection := by
  refine List.forall₂_eq_eq_eq ▸ List.forall₂_map_left_iff.2 ?_
  exact ((mapM_ok_iff.1 h).imp fun _ _ hs => (Registry.scenario_name hs).symm).flip.imp
    fun _ _ h => h.symm

theorem selected_nil (r : Registry) : selected r [] = .ok r.scenarioNames := rfl

theorem selected_of_ne_nil (h : selection ≠ []) :
    selected r selection =
      (do return Distinct.firsts id ((← selection.mapM r.scenario).map Scenario.name)) := by
  have hsome : ¬ selection.isEmpty = true := by simpa using h
  rw [selected, if_neg hsome]

theorem selected_ok_iff (h : selection ≠ []) :
    selected r selection = .ok names ↔
      (∀ name ∈ selection, name ∈ r.scenarioNames) ∧ FirstsOf id selection names := by
  rw [selected_of_ne_nil h]
  constructor
  · intro hnames
    rcases exists_of_map_ok hnames with ⟨scenarios, hfound, hfirsts⟩
    rw [names_of_found hfound] at hfirsts
    refine ⟨fun name hname => ?_, Distinct.firsts_eq_iff.1 hfirsts⟩
    exact Registry.exists_scenario_iff.1 (exists_mapM_ok_iff.1 ⟨scenarios, hfound⟩ name hname)
  · rintro ⟨hall, hfirsts⟩
    have hscenario : ∀ name ∈ selection, ∃ s, r.scenario name = .ok s := fun name hname =>
      Registry.exists_scenario_iff.2 (hall name hname)
    rcases exists_mapM_ok_iff.2 hscenario with ⟨scenarios, hfound⟩
    rw [hfound, ← Distinct.firsts_eq_iff.2 hfirsts, ← names_of_found hfound]
    rfl

theorem exists_selected_iff :
    (∃ names, selected r selection = .ok names) ↔ ∀ name ∈ selection, name ∈ r.scenarioNames := by
  by_cases hnone : selection = []
  · subst hnone
    simp [selected_nil]
  · rw [selected_of_ne_nil hnone, exists_map_ok_iff, exists_mapM_ok_iff]
    simp only [Registry.exists_scenario_iff]

theorem selected_error_iff {f : Failure} :
    selected r selection = .error f ↔
      ∃ before name after, selection = before ++ name :: after ∧
        (∀ name ∈ before, name ∈ r.scenarioNames) ∧ name ∉ r.scenarioNames ∧
        f = .unknownScenario name := by
  by_cases hnone : selection = []
  · subst hnone
    rw [selected_nil]
    exact iff_of_false (fun h => nomatch h) (by simp)
  · rw [selected_of_ne_nil hnone, map_error_iff, mapM_error_iff]
    simp only [Registry.exists_scenario_iff, Registry.scenario_error_iff]

/-! ## Making a plan -/

theorem build_without_scenarios (hr : r.scenarios = []) :
    build r selection viewports = .error .noScenarios := by
  simp [build, hr]

theorem build_without_viewports (hr : r.scenarios ≠ []) :
    build r selection [] = .error (.configuration .noViewports) := by
  simp [build, hr]

theorem build_of_ne_nil (hr : r.scenarios ≠ []) (hv : viewports ≠ []) :
    build r selection viewports = (do return product (← selected r selection) viewports) := by
  rw [build, if_neg (by simpa using hr), if_neg (by simpa using hv)]

theorem build_ok_iff :
    build r selection viewports = .ok p ↔
      r.scenarios ≠ [] ∧ viewports ≠ [] ∧
        ∃ names, selected r selection = .ok names ∧ product names viewports = p := by
  by_cases hr : r.scenarios = []
  · simp [build_without_scenarios hr, hr]
  · by_cases hv : viewports = []
    · subst hv
      simp [build_without_viewports hr]
    · rw [build_of_ne_nil hr hv]
      constructor
      · exact fun h => ⟨hr, hv, exists_of_map_ok h⟩
      · rintro ⟨-, -, names, hnames, rfl⟩
        rw [hnames]
        rfl

/-- What is missing is told in this order: scenarios, viewports, and what is selected. -/
theorem build_error_iff {f : Failure} :
    build r selection viewports = .error f ↔
      (r.scenarios = [] ∧ f = .noScenarios) ∨
      (r.scenarios ≠ [] ∧ viewports = [] ∧ f = .configuration .noViewports) ∨
      (r.scenarios ≠ [] ∧ viewports ≠ [] ∧ selected r selection = .error f) := by
  by_cases hr : r.scenarios = []
  · rw [build_without_scenarios hr, Except.error.injEq]
    simp [hr, eq_comm (a := f)]
  · by_cases hv : viewports = []
    · subst hv
      rw [build_without_viewports hr, Except.error.injEq]
      simp [hr, eq_comm (a := f)]
    · rw [build_of_ne_nil hr hv, map_error_iff]
      simp [hr, hv]

theorem length_product (names : List String) (viewports : List Viewport) :
    (product names viewports).entries.length = names.length * viewports.length := by
  have hpairs := congrArg List.length (entries_product names viewports)
  rwa [List.length_map, List.length_product] at hpairs

theorem getElem?_entries_product {i j : Nat} {s : String} {v : Viewport}
    (hs : names[i]? = some s) (hv : viewports[j]? = some v) :
    (product names viewports).entries[i * viewports.length + j]? =
      some ⟨i * viewports.length + j, s, v⟩ := by
  have hpair := getElem?_product hs hv
  rw [← entries_product, List.getElem?_map, Option.map_eq_some_iff] at hpair
  rcases hpair with ⟨⟨index, scenario, viewport⟩, hentry, hsame⟩
  -- The number of an entry is its place in the plan.
  have hindex := (product names viewports).index_of_getElem? hentry
  cases hsame
  rw [hentry, ← hindex]

theorem count_pair_product (hnames : names.Nodup) (hv : (viewports.map Viewport.name).Nodup)
    {s : String} (hs : s ∈ names) {v : Viewport} (hmem : v ∈ viewports) :
    ((product names viewports).entries.map Entry.pair).count (s, v.name) = 1 := by
  rw [pairs_product]
  exact List.count_eq_one_of_mem (hnames.product hv)
    (List.mem_product.2 ⟨hs, List.mem_map_of_mem hmem⟩)

/-- How making a plan fails, and where its entries stand otherwise. -/
theorem entries_in_place (r : Registry) (selection : List String) (viewports : List Viewport) :
    -- Something has to be registered, ..
    (build r selection viewports = .error .noScenarios ↔ r.scenarios = []) ∧
    -- .. and there have to be viewports, ..
    (build r selection viewports = .error (.configuration .noViewports) ↔
      r.scenarios ≠ [] ∧ viewports = []) ∧
    -- .. and what is selected has to be registered.
    (∀ name, build r selection viewports = .error (.unknownScenario name) ↔
      r.scenarios ≠ [] ∧ viewports ≠ [] ∧ ∃ before after, selection = before ++ name :: after ∧
        (∀ name ∈ before, name ∈ r.scenarioNames) ∧ name ∉ r.scenarioNames) ∧
    ((∃ p, build r selection viewports = .ok p) ↔
      r.scenarios ≠ [] ∧ viewports ≠ [] ∧ ∀ name ∈ selection, name ∈ r.scenarioNames) ∧
    ∀ p, build r selection viewports = .ok p → ∃ names,
      -- The scenarios are all that are registered, or those that are selected, each of them once.
      (selection = [] → names = r.scenarioNames) ∧
      (selection ≠ [] → FirstsOf id selection names) ∧
      p.entries.length = names.length * viewports.length ∧
      (∀ i j s v, names[i]? = some s → viewports[j]? = some v →
        p.entries[i * viewports.length + j]? = some ⟨i * viewports.length + j, s, v⟩) ∧
      (r.Built → (viewports.map Viewport.name).Nodup → ∀ s ∈ names, ∀ v ∈ viewports,
        (p.entries.map Entry.pair).count (s, v.name) = 1) := by
  refine ⟨?_, ?_, ?_, ?_, ?_⟩
  · rw [build_error_iff]
    simp [selected_error_iff]
  · rw [build_error_iff]
    simp [selected_error_iff]
  · intro name
    rw [build_error_iff]
    simp [selected_error_iff]
  · constructor
    · rintro ⟨p, hp⟩
      rcases build_ok_iff.1 hp with ⟨hr, hv, names, hnames, -⟩
      exact ⟨hr, hv, exists_selected_iff.1 ⟨names, hnames⟩⟩
    · rintro ⟨hr, hv, hall⟩
      rcases exists_selected_iff.2 hall with ⟨names, hnames⟩
      exact ⟨_, build_ok_iff.2 ⟨hr, hv, names, hnames, rfl⟩⟩
  · intro p hp
    rcases build_ok_iff.1 hp with ⟨hr, -, names, hnames, rfl⟩
    refine ⟨names, ?_, ?_, length_product names viewports, ?_, ?_⟩
    · rintro rfl
      exact (Except.ok.inj hnames).symm
    · exact fun hsome => ((selected_ok_iff hsome).1 hnames).2
    · exact fun i j s v hs hv => getElem?_entries_product hs hv
    · intro hbuilt hdistinct s hs v hv
      exact count_pair_product (selected_spec hbuilt.scenarioNames_nodup hr hnames).2.1 hdistinct hs
        hv

/-- A scenario that is selected twice, and another one between, on two viewports. -/
theorem entries_in_place_of_repeated_selection :
    let r : Registry := ⟨[], [⟨"home", [.navigate "/"]⟩, ⟨"blog", [.navigate "/blog"]⟩]⟩
    let viewports : List Viewport := [⟨"narrow", 1, 1⟩, ⟨"wide", 2, 1⟩]
    ∃ p, build r ["blog", "home", "blog"] viewports = .ok p ∧
      p.entries.length = 4 ∧
      p.entries[3]? = some ⟨3, "home", ⟨"wide", 2, 1⟩⟩ ∧
      (p.entries.map Entry.pair).count ("blog", "narrow") = 1 := by
  intro r viewports
  have hbuilt : r.Built :=
    .scenario (.scenario .empty (s := ⟨"home", [.navigate "/"]⟩) rfl)
      (s := ⟨"blog", [.navigate "/blog"]⟩) rfl
  rcases entries_in_place r ["blog", "home", "blog"] viewports with ⟨-, -, -, hmade, hplaces⟩
  rcases hmade.2 ⟨List.cons_ne_nil _ _, List.cons_ne_nil _ _, by decide⟩ with ⟨p, hp⟩
  rcases hplaces p hp with ⟨names, -, hselected, hlength, hentry, hcount⟩
  have hnames : names = ["blog", "home"] :=
    (Distinct.firsts_eq_iff.2 (hselected (List.cons_ne_nil _ _))).symm
  subst hnames
  exact ⟨p, hp, hlength, hentry 1 1 _ _ rfl rfl,
    hcount hbuilt (by decide) "blog" (by simp) ⟨"narrow", 1, 1⟩ (by simp [viewports])⟩

end Plan
end LayoutAudit
