import LayoutAudit.Browser.Call
import LayoutAudit.Plan.Entry

/-!
# Run.Journey — an entry of a plan as a sequence of calls

* `Routine` — what a scenario does with its page, whatever it makes of the answers;
* `Routine.ofSteps` — the routine of a script: its steps up to the first that fails;
* `Journey` — a result, or a call and what follows on its answer;
* `Journey.perform` — a routine as calls on a page, which is closed in any case;
* `Journey.visit`, `Journey.ofEntry` — the journey of a scenario on a viewport;
* `Journey.travel` — a journey with a browser that keeps a state.
-/

namespace LayoutAudit

/-- What a scenario does with its page. -/
inductive Routine where
  | done (result : Attempt Unit)
  | navigate (path : String) (next : Attempt Unit → Routine)
  /-- Measures the page and checks a spec. -/
  | snapshot (name : String) (spec : Spec) (options : SnapshotOptions)
      (next : Attempt Report → Routine)

namespace Routine

/-- Does steps up to the first that fails. -/
def ofSteps : List Scenario.Step → Routine
  | [] => done (.ok ())
  | .navigate path :: rest => navigate path fun
      | .ok _ => ofSteps rest
      | .error f => done (.error f)
  | .snapshot name spec options :: rest => snapshot name spec options fun
      | .ok _ => ofSteps rest
      | .error f => done (.error f)

end Routine

def Registry.routine (r : Registry) (entry : Plan.Entry) : Attempt Routine := do
  return .ofSteps (← r.scenario entry.scenario).steps

/-- A sequence of calls that depends on the answers. -/
inductive Journey where
  | finished (result : Attempt (List Report))
  | await (call : Call) (next : Attempt call.Reply → Journey)

namespace Journey

def occasion (scenario : String) (viewport : Viewport) (snapshot : String)
    (options : SnapshotOptions) : Occasion :=
  ⟨scenario, snapshot, some (options.viewTag.getD viewport.name), options.viewportClass⟩

/-- Closes the page.  Whether that succeeds makes no difference. -/
def closing (result : Attempt (List Report)) : Journey := await .close fun _ => finished result

/-- Follows a routine and closes the page.  The reports of a routine that fails are dropped. -/
def perform (scenario : String) (viewport : Viewport) : Routine → List Report → Journey
  | .done result, reports => closing (result.map fun _ => reports)
  | .navigate path next, reports =>
      await (.navigate path) fun answer => perform scenario viewport (next answer) reports
  | .snapshot name spec options next, reports =>
      await (.measure spec) fun
        | .ok (m : Measurement) =>
            let report := spec.evaluate m (occasion scenario viewport name options)
            perform scenario viewport (next (.ok report)) (reports ++ [report])
        | .error f => perform scenario viewport (next (.error f)) reports

/-- The journey of a routine on a page of its own. -/
def visit (scenario : String) (viewport : Viewport) (routine : Routine) : Journey :=
  await (.openPage viewport) fun
    | .ok _ => perform scenario viewport routine []
    | .error f => finished (.error f)

def following (routine : Plan.Entry → Attempt Routine) (entry : Plan.Entry) : Journey :=
  match routine entry with
  | .ok routine => visit entry.scenario entry.viewport routine
  | .error f => finished (.error f)

def ofEntry (r : Registry) : Plan.Entry → Journey := following r.routine

def travel {σ : Type} (browser : σ → (call : Call) → Attempt call.Reply × σ) :
    Journey → σ → Attempt (List Report) × σ
  | finished result, s => (result, s)
  | await call next, s =>
      let (answer, s) := browser s call
      (next answer).travel browser s

end Journey
end LayoutAudit
