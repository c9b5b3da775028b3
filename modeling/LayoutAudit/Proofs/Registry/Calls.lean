import LayoutAudit.Proofs.Run.Preparation

/-!
# Proofs.Registry.Calls — a registry after any number of calls

Specs, scenarios and scripts are registered in any order, and any of these calls may fail.  A call
is performed on the registry as it stands.  What it leaves is looked at whether it succeeds or not,
so that a call that fails halfway could leave traces; none does.

* `Registry.run_perform` — calls come to what `addSpec`, `addScenario` and `addScript` give;
* `Registry.compile_ok_iff` — what a script is compiled to;
* `Registry.Extends` — what a registry may become: nothing is lost, moved or replaced;
* `Registry.exists_addScript_iff` — which scripts can be registered;
* `Registry.after`, `Registry.accepted` — calls one after the other, and those that succeeded;
* `Registry.calls_register` — names, lookups and failures after any calls.
-/

namespace LayoutAudit
namespace Registry

variable {r r' : Registry} {name : String}

/-! ## Calls -/

/-- The registry that a call is to lead to. -/
def add (r : Registry) : Call → Attempt Registry
  | .spec name s => r.addSpec name s
  | .scenario s => r.addScenario s
  | .script s => r.addScript s

def settled (r : Registry) : Attempt Registry → Attempt Unit × Registry
  | .ok next => (.ok (), next)
  | .error e => (.error e, r)

theorem run_registerSpec (r : Registry) (name : String) (spec : Spec) :
    (registerSpec name spec).run r = r.settled (r.addSpec name spec) := by
  change (if r.specNames.contains name then _ else _ : Action PUnit) r = _
  by_cases htaken : r.specNames.contains name = true
  · rw [addSpec, if_pos htaken, if_pos htaken]
    rfl
  · rw [addSpec, if_neg htaken, if_neg htaken]
    rfl

theorem run_registerScenario (r : Registry) (s : Scenario) :
    (registerScenario s).run r = r.settled (r.addScenario s) := by
  change (if r.scenarioNames.contains s.name then _ else _ : Action PUnit) r = _
  by_cases htaken : r.scenarioNames.contains s.name = true
  · rw [addScenario, if_pos htaken, if_pos htaken]
    rfl
  · rw [addScenario, if_neg htaken, if_neg htaken]
    rfl

theorem run_registerScript (r : Registry) (script : Script) :
    (registerScript script).run r = r.settled (r.addScript script) := by
  change (MonadExcept.ofExcept (r.compile script) >>= registerScenario : Action Unit) r = _
  cases hcompile : r.compile script with
  | error e =>
      rw [addScript, hcompile]
      rfl
  | ok s =>
      rw [addScript, hcompile]
      exact run_registerScenario r s

/-- A call leads to where it is to lead, or else it leaves no trace. -/
theorem run_perform (r : Registry) (call : Call) : r.perform call = r.settled (r.add call) := by
  cases call with
  | spec name s => exact run_registerSpec r name s
  | scenario s => exact run_registerScenario r s
  | script s => exact run_registerScript r s

theorem perform_of_ok {call : Call} (h : r.add call = .ok r') : r.perform call = (.ok (), r') := by
  rw [run_perform, h, settled]

theorem perform_of_error {call : Call} {e : Failure} (h : r.add call = .error e) :
    r.perform call = (.error e, r) := by
  rw [run_perform, h, settled]

theorem perform_ok_iff {call : Call} : (r.perform call).1 = .ok () ↔ ∃ r', r.add call = .ok r' := by
  cases h : r.add call with
  | ok next => simp [perform_of_ok h]
  | error e => simp [perform_of_error h]

theorem perform_error {call : Call} {e : Failure} (h : (r.perform call).1 = .error e) :
    (r.perform call).2 = r := by
  cases hadd : r.add call with
  | ok next =>
      rw [perform_of_ok hadd] at h
      cases h
  | error e' => rw [perform_of_error hadd]

/-! ## What a script is compiled to -/

theorem compileStep_navigate {path : String} {compiled : Scenario.Step} :
    r.compileStep (.navigate path) = .ok compiled ↔ compiled = .navigate path := by
  simp [compileStep, eq_comm]

theorem compileStep_snapshot {name key : String} {options : SnapshotOptions}
    {compiled : Scenario.Step} :
    r.compileStep (.snapshot name key options) = .ok compiled ↔
      ∃ spec, r.spec key = .ok spec ∧ compiled = .snapshot name spec options := by
  constructor
  · intro h
    rcases exists_of_map_ok h with ⟨spec, hspec, rfl⟩
    exact ⟨spec, hspec, rfl⟩
  · rintro ⟨spec, hspec, rfl⟩
    rw [compileStep, hspec]
    rfl

theorem compile_ok_iff {script : Script} {s : Scenario} :
    r.compile script = .ok s ↔
      script.steps ≠ [] ∧ s.name = script.name ∧
        List.Forall₂ (fun step compiled => r.compileStep step = .ok compiled) script.steps
          s.steps := by
  unfold compile
  by_cases hempty : script.steps = []
  · simp [hempty]
  · rw [if_neg (by simpa using hempty)]
    constructor
    · intro h
      rcases exists_of_map_ok h with ⟨steps, hsteps, rfl⟩
      exact ⟨hempty, rfl, mapM_ok_iff.1 hsteps⟩
    · rintro ⟨-, hname, hsteps⟩
      rw [mapM_ok_iff.2 hsteps, ← hname]
      rfl

theorem compile_name {script : Script} {s : Scenario} (h : r.compile script = .ok s) :
    s.name = script.name := (compile_ok_iff.1 h).2.1

/-! ## What a call adds -/

def Call.spec? : Call → Option (String × Spec)
  | spec name s => some (name, s)
  | _ => none

def Call.scenarioName? : Call → Option String
  | spec _ _ => none
  | scenario s => some s.name
  | script s => some s.name

theorem addSpec_ok_iff {spec : Spec} :
    r.addSpec name spec = .ok r' ↔
      name ∉ r.specNames ∧ r' = { r with specs := r.specs ++ [(name, spec)] } := by
  by_cases htaken : name ∈ r.specNames <;> simp [addSpec, htaken, eq_comm]

theorem addScenario_ok_iff {s : Scenario} :
    r.addScenario s = .ok r' ↔
      s.name ∉ r.scenarioNames ∧ r' = { r with scenarios := r.scenarios ++ [s] } := by
  by_cases htaken : s.name ∈ r.scenarioNames <;> simp [addScenario, htaken, eq_comm]

theorem add_specs {call : Call} (h : r.add call = .ok r') :
    r'.specs = r.specs ++ call.spec?.toList := by
  cases call with
  | spec name s =>
      rw [(addSpec_ok_iff.1 h).2]
      rfl
  | scenario s =>
      rw [(addScenario_ok_iff.1 h).2]
      exact (List.append_nil _).symm
  | script script =>
      rcases exists_of_addScript h with ⟨s, -, hscenario⟩
      rw [(addScenario_ok_iff.1 hscenario).2]
      exact (List.append_nil _).symm

theorem add_scenarioNames {call : Call} (h : r.add call = .ok r') :
    r'.scenarioNames = r.scenarioNames ++ call.scenarioName?.toList := by
  cases call with
  | spec name s =>
      rw [scenarioNames, addSpec_scenarios h]
      exact (List.append_nil _).symm
  | scenario s => exact (addScenario_ok h).2
  | script script =>
      rcases exists_of_addScript h with ⟨s, hcompile, hscenario⟩
      rw [(addScenario_ok hscenario).2, compile_name hcompile]
      rfl

theorem Built.add {call : Call} (hr : r.Built) (h : r.add call = .ok r') : r'.Built := by
  cases call with
  | spec name s => exact .spec hr h
  | scenario s => exact .scenario hr h
  | script s => exact .script hr h

theorem Built.specNames_nodup (h : Built r) : r.specNames.Nodup := by
  induction h with
  | empty => exact List.nodup_nil
  | @spec r _ name spec _ hadd ih =>
      rcases addSpec_ok_iff.1 hadd with ⟨hfree, rfl⟩
      have hdisjoint : ∀ key ∈ r.specNames, ∀ last ∈ [name], key ≠ last := fun key hkey last hlast =>
        fun heq => hfree (List.mem_singleton.1 hlast ▸ heq ▸ hkey)
      rw [specNames, List.map_append]
      exact List.nodup_append.2 ⟨ih, List.nodup_singleton name, hdisjoint⟩
  | scenario _ hadd ih =>
      rw [(addScenario_ok_iff.1 hadd).2]
      exact ih
  | script _ hadd ih =>
      rcases exists_of_addScript hadd with ⟨s, -, hscenario⟩
      rw [(addScenario_ok_iff.1 hscenario).2]
      exact ih

/-! ## Lookups -/

/-- A name stands for the spec at a place.  What stands at a place is one value, and all who look it
up there share it. -/
structure HoldsSpec (r : Registry) (place : Nat) (name : String) (s : Spec) : Prop where
  first : r.specs.findIdx? (·.1 == name) = some place
  value : r.specs[place]? = some (name, s)

/-- A name stands for the scenario at a place. -/
structure HoldsScenario (r : Registry) (place : Nat) (name : String) (s : Scenario) : Prop where
  first : r.scenarios.findIdx? (·.name == name) = some place
  value : r.scenarios[place]? = some s

theorem lookup_eq_find? {β : Type} (entries : List (String × β)) (key : String) :
    entries.lookup key = (entries.find? (·.1 == key)).map Prod.snd := by
  induction entries with
  | nil => rfl
  | cons entry rest ih =>
      rcases entry with ⟨name, value⟩
      by_cases hkey : name = key
      · simp [hkey]
      · have hbeq : (key == name) = false := by simpa using Ne.symm hkey
        simp [List.lookup_cons, hbeq, hkey, ih]

theorem find?_eq_some_iff_findIdx? {α : Type} {p : α → Bool} {as : List α} {a : α} :
    as.find? p = some a ↔ ∃ n, as.findIdx? p = some n ∧ as[n]? = some a := by
  rw [List.find?_eq_bind_findIdx?_getElem?, Option.bind_eq_some_iff]

theorem spec_ok_iff {s : Spec} : r.spec name = .ok s ↔ ∃ n, r.HoldsSpec n name s := by
  have hlookup : r.spec name = .ok s ↔ r.specs.lookup name = some s := by
    unfold spec
    cases r.specs.lookup name <;> simp
  rw [hlookup, lookup_eq_find?, Option.map_eq_some_iff]
  constructor
  · rintro ⟨⟨key, found⟩, hfind, rfl⟩
    have hkey : key = name := by simpa using List.find?_some hfind
    rcases find?_eq_some_iff_findIdx?.1 hfind with ⟨n, hfirst, hvalue⟩
    exact ⟨n, hfirst, hkey ▸ hvalue⟩
  · rintro ⟨n, hfirst, hvalue⟩
    exact ⟨(name, s), find?_eq_some_iff_findIdx?.2 ⟨n, hfirst, hvalue⟩, rfl⟩

theorem scenario_ok_iff {s : Scenario} :
    r.scenario name = .ok s ↔ ∃ n, r.HoldsScenario n name s := by
  have hfind : r.scenario name = .ok s ↔ r.scenarios.find? (·.name == name) = some s := by
    unfold Registry.scenario
    cases r.scenarios.find? (·.name == name) <;> simp
  rw [hfind, find?_eq_some_iff_findIdx?]
  exact ⟨fun ⟨n, hfirst, hvalue⟩ => ⟨n, hfirst, hvalue⟩,
    fun ⟨n, hholds⟩ => ⟨n, hholds.first, hholds.value⟩⟩

theorem exists_spec_iff : (∃ s, r.spec name = .ok s) ↔ name ∈ r.specNames := by
  have hlookup : (∃ s, r.spec name = .ok s) ↔ (r.specs.lookup name).isSome := by
    unfold spec
    cases r.specs.lookup name <;> simp
  rw [hlookup, lookup_eq_find?, Option.isSome_map, List.find?_isSome, specNames, List.mem_map]
  simp only [beq_iff_eq]

theorem exists_scenario_iff : (∃ s, r.scenario name = .ok s) ↔ name ∈ r.scenarioNames := by
  refine ⟨fun ⟨s, hs⟩ => ?_, exists_scenario_of_mem⟩
  rcases scenario_ok_iff.1 hs with ⟨n, hholds⟩
  exact scenario_name hs ▸ List.mem_map_of_mem (List.mem_of_getElem? hholds.value)

theorem find?_scenario_eq_none_iff :
    r.scenarios.find? (·.name == name) = none ↔ name ∉ r.scenarioNames := by
  simp [scenarioNames]

theorem scenario_error_iff {f : Failure} :
    r.scenario name = .error f ↔ name ∉ r.scenarioNames ∧ f = .unknownScenario name := by
  rw [← find?_scenario_eq_none_iff, Registry.scenario]
  cases r.scenarios.find? (·.name == name) <;> simp [eq_comm]

/-! ## Registries that hold more -/

/-- A registry with everything that another one holds, at the same places. -/
structure Extends (r r' : Registry) : Prop where
  specs : r.specs <+: r'.specs
  scenarios : r.scenarios <+: r'.scenarios

namespace Extends

theorem refl (r : Registry) : r.Extends r := ⟨List.prefix_rfl, List.prefix_rfl⟩

theorem trans {r'' : Registry} (h : r.Extends r') (h' : r'.Extends r'') : r.Extends r'' :=
  ⟨h.specs.trans h'.specs, h.scenarios.trans h'.scenarios⟩

theorem getElem?_of_prefix {α : Type} {as bs : List α} (h : as <+: bs) {n : Nat} {a : α}
    (hn : as[n]? = some a) : bs[n]? = some a := by
  rcases h with ⟨more, rfl⟩
  rw [List.getElem?_append_left (List.getElem?_eq_some_iff.1 hn).1, hn]

theorem holdsSpec (h : r.Extends r') {n : Nat} {s : Spec} (hs : r.HoldsSpec n name s) :
    r'.HoldsSpec n name s where
  first := h.specs.findIdx?_eq_some hs.first
  value := getElem?_of_prefix h.specs hs.value

theorem holdsScenario (h : r.Extends r') {n : Nat} {s : Scenario} (hs : r.HoldsScenario n name s) :
    r'.HoldsScenario n name s where
  first := h.scenarios.findIdx?_eq_some hs.first
  value := getElem?_of_prefix h.scenarios hs.value

end Extends

theorem extends_add {call : Call} (h : r.add call = .ok r') : r.Extends r' := by
  refine ⟨add_specs h ▸ List.prefix_append _ _, ?_⟩
  cases call with
  | spec name s => exact addSpec_scenarios h ▸ List.prefix_rfl
  | scenario s => exact (addScenario_ok_iff.1 h).2 ▸ List.prefix_append _ _
  | script script =>
      rcases exists_of_addScript h with ⟨s, -, hscenario⟩
      exact (addScenario_ok_iff.1 hscenario).2 ▸ List.prefix_append _ _

/-! ## Scripts -/

theorem exists_compileStep_iff {step : Script.Step} :
    (∃ compiled, r.compileStep step = .ok compiled) ↔
      ∀ name key options, step = .snapshot name key options → key ∈ r.specNames := by
  cases step with
  | navigate path => simp [compileStep_navigate]
  | snapshot name key options =>
      have hkey : (∃ compiled, r.compileStep (.snapshot name key options) = .ok compiled) ↔
          ∃ s, r.spec key = .ok s := by
        simp [compileStep_snapshot]
      rw [hkey, exists_spec_iff]
      exact ⟨fun h _ _ _ heq => (Script.Step.snapshot.inj heq).2.1 ▸ h, fun h => h _ _ _ rfl⟩

theorem exists_compile_iff {script : Script} :
    (∃ s, r.compile script = .ok s) ↔
      script.steps ≠ [] ∧
        ∀ name key options, .snapshot name key options ∈ script.steps → key ∈ r.specNames := by
  have hsteps : (∃ steps, script.steps.mapM r.compileStep = .ok steps) ↔
      ∀ name key options, .snapshot name key options ∈ script.steps → key ∈ r.specNames := by
    simp only [exists_mapM_ok_iff, exists_compileStep_iff]
    exact ⟨fun h name key options hmem => h _ hmem name key options rfl,
      fun h step hstep name key options heq => h name key options (heq ▸ hstep)⟩
  rw [← hsteps]
  constructor
  · rintro ⟨s, hs⟩
    rcases compile_ok_iff.1 hs with ⟨hsome, -, hcompiled⟩
    exact ⟨hsome, s.steps, mapM_ok_iff.2 hcompiled⟩
  · rintro ⟨hsome, steps, hcompiled⟩
    exact ⟨⟨script.name, steps⟩, compile_ok_iff.2 ⟨hsome, rfl, mapM_ok_iff.1 hcompiled⟩⟩

/-- A script can be registered if it has steps, if its specs are there, and if its name is free. -/
theorem exists_addScript_iff {script : Script} :
    (∃ r', r.addScript script = .ok r') ↔
      script.steps ≠ [] ∧
        (∀ name key options, .snapshot name key options ∈ script.steps → key ∈ r.specNames) ∧
        script.name ∉ r.scenarioNames := by
  rw [← and_assoc, ← exists_compile_iff]
  constructor
  · rintro ⟨r', h⟩
    rcases exists_of_addScript h with ⟨s, hcompile, hscenario⟩
    exact ⟨⟨s, hcompile⟩, compile_name hcompile ▸ (addScenario_ok hscenario).1⟩
  · rintro ⟨⟨s, hcompile⟩, hfree⟩
    refine ⟨{ r with scenarios := r.scenarios ++ [s] }, ?_⟩
    rw [addScript, hcompile]
    exact addScenario_ok_iff.2 ⟨compile_name hcompile ▸ hfree, rfl⟩

/-! ## Calls one after the other -/

/-- The registry after some calls, whether they succeed or not. -/
def after (r : Registry) (calls : List Call) : Registry :=
  calls.foldl (fun r call => (r.perform call).2) r

/-- The calls that succeed, in order. -/
def accepted (r : Registry) : List Call → List Call
  | [] => []
  | call :: rest =>
      match r.perform call with
      | (.ok _, next) => call :: next.accepted rest
      | (.error _, next) => next.accepted rest

theorem after_cons (r : Registry) (call : Call) (rest : List Call) :
    r.after (call :: rest) = (r.perform call).2.after rest := rfl

theorem accepted_of_ok {call : Call} (h : r.add call = .ok r') (rest : List Call) :
    r.accepted (call :: rest) = call :: r'.accepted rest := by
  rw [accepted, perform_of_ok h]

theorem accepted_of_error {call : Call} {e : Failure} (h : r.add call = .error e)
    (rest : List Call) : r.accepted (call :: rest) = r.accepted rest := by
  rw [accepted, perform_of_error h]

/-- What succeeds adds something, and all that is done is what succeeds. -/
theorem after_induction {P : Registry → List Call → Registry → Prop}
    (hnil : ∀ r, P r [] r)
    (hcons : ∀ {r next last call done}, r.add call = .ok next → P next done last →
      P r (call :: done) last) (r : Registry) (calls : List Call) :
    P r (r.accepted calls) (r.after calls) := by
  induction calls generalizing r with
  | nil => exact hnil r
  | cons call rest ih =>
      rw [after_cons]
      cases h : r.add call with
      | ok next =>
          rw [accepted_of_ok h, perform_of_ok h]
          exact hcons h (ih next)
      | error e =>
          rw [accepted_of_error h, perform_of_error h]
          exact ih r

theorem after_specs (r : Registry) (calls : List Call) :
    (r.after calls).specs = r.specs ++ (r.accepted calls).filterMap Call.spec? := by
  refine after_induction (P := fun r done last => last.specs = r.specs ++ done.filterMap Call.spec?)
    (fun r => (List.append_nil _).symm) ?_ r calls
  intro r next last call done h ih
  rw [ih, add_specs h]
  cases hgiven : call.spec? <;> simp [hgiven]

theorem after_scenarioNames (r : Registry) (calls : List Call) :
    (r.after calls).scenarioNames =
      r.scenarioNames ++ (r.accepted calls).filterMap Call.scenarioName? := by
  refine after_induction
    (P := fun r done last => last.scenarioNames =
      r.scenarioNames ++ done.filterMap Call.scenarioName?)
    (fun r => (List.append_nil _).symm) ?_ r calls
  intro r next last call done h ih
  rw [ih, add_scenarioNames h]
  cases hgiven : call.scenarioName? <;> simp [hgiven]

theorem Built.after (hr : r.Built) (calls : List Call) : (r.after calls).Built :=
  after_induction (P := fun r _ last => r.Built → last.Built) (fun _ hr => hr)
    (fun h ih hr => ih (hr.add h)) r calls hr

theorem extends_after (r : Registry) (calls : List Call) : r.Extends (r.after calls) :=
  after_induction (P := fun r _ last => r.Extends last) .refl
    (fun h ih => (extends_add h).trans ih) r calls

/-- A spec that is found once is found at the same place ever after. -/
theorem spec_after {s : Spec} (h : r.spec name = .ok s) :
    ∃ n, ∀ later, (r.after later).spec name = .ok s ∧ (r.after later).HoldsSpec n name s := by
  rcases spec_ok_iff.1 h with ⟨n, hholds⟩
  have hlater (later : List Call) : (r.after later).HoldsSpec n name s :=
    (extends_after r later).holdsSpec hholds
  exact ⟨n, fun later => ⟨spec_ok_iff.2 ⟨n, hlater later⟩, hlater later⟩⟩

/-- A scenario that is found once is found at the same place ever after. -/
theorem scenario_after {s : Scenario} (h : r.scenario name = .ok s) :
    ∃ n, ∀ later,
      (r.after later).scenario name = .ok s ∧ (r.after later).HoldsScenario n name s := by
  rcases scenario_ok_iff.1 h with ⟨n, hholds⟩
  have hlater (later : List Call) : (r.after later).HoldsScenario n name s :=
    (extends_after r later).holdsScenario hholds
  exact ⟨n, fun later => ⟨scenario_ok_iff.2 ⟨n, hlater later⟩, hlater later⟩⟩

theorem mem_names_of_calls {calls : List Call} :
    name ∈ (calls.filterMap Call.spec?).map Prod.fst ↔ ∃ s, .spec name s ∈ calls := by
  simp only [List.mem_map, List.mem_filterMap, Prod.exists, exists_and_right, exists_eq_right]
  constructor
  · rintro ⟨s, call, hcall, hgiven⟩
    cases call with
    | spec key given =>
        cases hgiven
        exact ⟨s, hcall⟩
    | scenario _ => cases hgiven
    | script _ => cases hgiven
  · rintro ⟨s, hs⟩
    exact ⟨s, _, hs, rfl⟩

/-- Whatever is called: the specs are those of the calls that succeeded, in that order, and so are
the scenarios, with one of each name.  A call that fails leaves everything as it was.  A lookup
succeeds exactly if a call that succeeded gave that name, and is answered from the same place with
the same value ever after.  A script is registered exactly if it has a step, its specs have been
registered and its name is free. -/
theorem calls_register (calls : List Call) :
    let r := empty.after calls
    let done := empty.accepted calls
    (r.specs = done.filterMap Call.spec? ∧ r.specNames.Nodup) ∧
    (r.scenarioNames = done.filterMap Call.scenarioName? ∧ r.scenarioNames.Nodup) ∧
    (∀ call e, (r.perform call).1 = .error e → (r.perform call).2 = r) ∧
    (∀ name s, r.spec name = .ok s →
      ∃ n, ∀ later, (r.after later).spec name = .ok s ∧ (r.after later).HoldsSpec n name s) ∧
    (∀ name s, r.scenario name = .ok s →
      ∃ n, ∀ later, (r.after later).scenario name = .ok s ∧ (r.after later).HoldsScenario n name s) ∧
    (∀ name, (∃ s, r.spec name = .ok s) ↔ ∃ s, .spec name s ∈ done) ∧
    (∀ name, (∃ s, r.scenario name = .ok s) ↔ ∃ call ∈ done, call.scenarioName? = some name) ∧
    ∀ script, (r.perform (.script script)).1 = .ok () ↔
      script.steps ≠ [] ∧
        (∀ name key options, .snapshot name key options ∈ script.steps → key ∈ r.specNames) ∧
        script.name ∉ r.scenarioNames := by
  intro r done
  have hbuilt : r.Built := Built.empty.after calls
  have hspecs : r.specs = done.filterMap Call.spec? := after_specs empty calls
  have hscenarios : r.scenarioNames = done.filterMap Call.scenarioName? :=
    after_scenarioNames empty calls
  refine ⟨⟨hspecs, hbuilt.specNames_nodup⟩, ⟨hscenarios, hbuilt.scenarioNames_nodup⟩,
    fun _ _ h => perform_error h, fun _ _ h => spec_after h, fun _ _ h => scenario_after h,
    ?_, ?_, ?_⟩
  · intro name
    rw [exists_spec_iff, specNames, hspecs]
    exact mem_names_of_calls
  · intro name
    rw [exists_scenario_iff, hscenarios, List.mem_filterMap]
  · intro script
    rw [perform_ok_iff]
    exact exists_addScript_iff

/-- A page that is registered with its spec: the second time its name is taken, and the spec is
shared by what comes later. -/
theorem calls_register_home :
    let frame : Spec := ⟨[], [], [], []⟩
    let home : Script := ⟨"home", "", [.navigate "/", .snapshot "page" "frame" ⟨none, none⟩]⟩
    let r := empty.after [.script home, .spec "frame" frame, .script home, .spec "frame" default]
    r.specNames = ["frame"] ∧ r.scenarioNames = ["home"] ∧
      (r.perform (.script home)).2 = r ∧
      (r.perform (.script { home with name := "about" })).1 = .ok () ∧
      ∃ n, ∀ later, (r.after later).spec "frame" = .ok frame ∧
        (r.after later).HoldsSpec n "frame" frame := by
  intro frame home r
  rcases calls_register [.script home, .spec "frame" frame, .script home, .spec "frame" default] with
    ⟨⟨hspecs, -⟩, ⟨hscenarios, -⟩, hfailed, hshared, -, -, -, hscripts⟩
  have hnames : r.specNames = ["frame"] := congrArg (List.map Prod.fst) hspecs
  refine ⟨hnames, hscenarios, hfailed (.script home) _ rfl, (hscripts _).2 ⟨?_, ?_, ?_⟩,
    hshared "frame" frame rfl⟩
  · exact List.cons_ne_nil _ _
  · intro name key options hmem
    change key ∈ r.specNames
    have hstep : Script.Step.snapshot name key options = .snapshot "page" "frame" ⟨none, none⟩ := by
      simpa [home] using hmem
    rw [hnames, (Script.Step.snapshot.inj hstep).2.1]
    exact List.mem_singleton_self _
  · decide

end Registry
end LayoutAudit
