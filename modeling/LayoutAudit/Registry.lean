import LayoutAudit.Failure
import LayoutAudit.Script.Step
import LayoutAudit.Spec.Standard

/-!
# Registry — specs and scenarios by name

A scenario is compiled when it is registered: from then on its snapshots hold the specs that they
named, so that no spec can be missing while the scenario runs.

* `Scenario` — a script whose specs are at hand;
* `Registry` — specs and scenarios, in the order in which they were registered;
* `Registry.addSpec`, `Registry.addScript` — registering, once for each name;
* `Registry.spec`, `Registry.scenario` — looking up;
* `Registry.Action`, `Registry.perform` — registering as changes of a registry in place.
-/

namespace LayoutAudit

inductive Scenario.Step where
  | navigate (path : String)
  | snapshot (name : String) (spec : Spec) (options : SnapshotOptions)
  deriving Inhabited

/-- A script whose specs are at hand. -/
structure Scenario where
  name : String
  steps : List Scenario.Step
  deriving Inhabited

structure Registry where
  specs : List (String × Spec)
  scenarios : List Scenario
  deriving Inhabited

namespace Registry

def empty : Registry := ⟨[], []⟩

def specNames (r : Registry) : List String := r.specs.map Prod.fst

def scenarioNames (r : Registry) : List String := r.scenarios.map Scenario.name

def spec (r : Registry) (name : String) : Attempt Spec :=
  match r.specs.lookup name with
  | some s => .ok s
  | none => .error (.unknownSpec name)

def scenario (r : Registry) (name : String) : Attempt Scenario :=
  match r.scenarios.find? (·.name == name) with
  | some s => .ok s
  | none => .error (.unknownScenario name)

/-- Registers a spec under a name that is free. -/
def addSpec (r : Registry) (name : String) (spec : Spec) : Attempt Registry :=
  if r.specNames.contains name then .error (.configuration (.specTwice name))
  else .ok { r with specs := r.specs ++ [(name, spec)] }

/-- Registers a scenario whose name is free. -/
def addScenario (r : Registry) (s : Scenario) : Attempt Registry :=
  if r.scenarioNames.contains s.name then .error (.configuration (.scenarioTwice s.name))
  else .ok { r with scenarios := r.scenarios ++ [s] }

def compileStep (r : Registry) : Script.Step → Attempt Scenario.Step
  | .navigate path => .ok (.navigate path)
  | .snapshot name key options => do return .snapshot name (← r.spec key) options

def compile (r : Registry) (script : Script) : Attempt Scenario :=
  if script.steps.isEmpty then .error (.configuration (.noSteps script.name))
  else do return ⟨script.name, ← script.steps.mapM r.compileStep⟩

/-- Registers a script, all of whose specs have to be registered. -/
def addScript (r : Registry) (script : Script) : Attempt Registry := do
  r.addScenario (← r.compile script)

def addSpecs (r : Registry) (specs : List (String × Spec)) : Attempt Registry :=
  specs.foldlM (fun r (name, spec) => r.addSpec name spec) r

/-! ## Registering in place -/

/-- Something that is done to a registry.  If it fails, what it has done until then stays. -/
abbrev Action (α : Type) := ExceptT Failure (StateM Registry) α

/-- Registers a spec, unless its name is taken. -/
def registerSpec (name : String) (spec : Spec) : Action Unit := do
  if (← get).specNames.contains name then
    throw (.configuration (.specTwice name))
  modify fun r => { r with specs := r.specs ++ [(name, spec)] }

/-- Registers a scenario, unless its name is taken. -/
def registerScenario (s : Scenario) : Action Unit := do
  if (← get).scenarioNames.contains s.name then
    throw (.configuration (.scenarioTwice s.name))
  modify fun r => { r with scenarios := r.scenarios ++ [s] }

def registerScript (script : Script) : Action Unit := do
  let s ← MonadExcept.ofExcept ((← get).compile script)
  registerScenario s

inductive Call where
  | spec (name : String) (spec : Spec)
  | scenario (s : Scenario)
  | script (script : Script)

def Call.perform : Call → Action Unit
  | spec name s => registerSpec name s
  | scenario s => registerScenario s
  | script s => registerScript s

/-- Performs a call: its outcome, and what it leaves. -/
def perform (r : Registry) (call : Call) : Attempt Unit × Registry := call.perform.run r

end Registry

namespace Standard

def registry : Registry := ⟨all.map fun (name, _, spec) => (name, spec), []⟩

/-- The script that is run when none is given: the standard specs on the root page. -/
def script : Script where
  name := "root"
  description := "Built-in checks against /"
  steps := .navigate "/" :: all.map fun (name, _, _) => .snapshot name name ⟨none, none⟩

end Standard
end LayoutAudit
