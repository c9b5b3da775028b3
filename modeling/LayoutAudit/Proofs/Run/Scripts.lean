import LayoutAudit.Proofs.Registry.Calls
import LayoutAudit.Proofs.Run.Isolation
import LayoutAudit.Proofs.Run.Lifecycle

/-!
# Proofs.Run.Scripts — a script and what comes of it on a page

A script names its specs, and what runs has them at hand.  Read as it is written, a script says
which calls are made on a page and what is reported on the answers.  The journey of its scenario
does just that, up to the first call that fails.

* `Script.Step.Asks`, `Script.Step.Gives` — the call of a step, and the report of a snapshot;
* `Script.Followed` — calls on a page, with their answers, that follow a script to a result;
* `Journey.exchanges` — what a journey asks of a browser, and what it is answered;
* `Registry.compile_extends`, `Registry.scenario_addScript` — what a script is compiled to and found
  as when more is registered;
* `Journey.follows_perform` — what is done on a page, by induction on the script;
* `Journey.compiled_script_is_followed` — the journeys of a script follow it.
-/

namespace LayoutAudit

open Exchange (opened)

/-! ## What a script says -/

namespace Script

namespace Step

def isSnapshot : Script.Step → Bool
  | navigate _ => false
  | snapshot _ _ _ => true

/-- The call that a step asks for.  A snapshot measures the page for the spec that is registered
under its key. -/
inductive Asks (r : Registry) : Script.Step → Call → Prop where
  | navigate (path : String) : Asks r (.navigate path) (.navigate path)
  | measure {name key : String} {options : SnapshotOptions} {spec : Spec}
      (hspec : r.spec key = .ok spec) : Asks r (.snapshot name key options) (.measure spec)

/-- The report on a measurement for a snapshot on the page of an entry. -/
structure ReportOn (entry : Plan.Entry) (name : String) (options : SnapshotOptions) (spec : Spec)
    (m : Measurement) (report : Report) : Prop where
  evaluated : report = spec.evaluate m
    ⟨entry.scenario, name, some (options.viewTag.getD entry.viewport.name), options.viewportClass⟩
  scenario : report.scenario = entry.scenario
  snapshot : report.snapshot = name
  viewTag : report.viewTag = some (options.viewTag.getD entry.viewport.name)
  viewportClass : report.viewportClass = options.viewportClass.getD (.ofWidth m.view.width)

/-- The report that comes of a step with its exchange. -/
inductive Gives (r : Registry) (entry : Plan.Entry) : Script.Step × Exchange → Report → Prop where
  | snapshot {name key : String} {options : SnapshotOptions} {spec : Spec} {m : Measurement}
      {report : Report} (hspec : r.spec key = .ok spec)
      (hreport : ReportOn entry name options spec m report) :
      Gives r entry (.snapshot name key options, ⟨.measure spec, Except.ok m⟩) report

theorem reportOn_evaluate (entry : Plan.Entry) (name : String) (options : SnapshotOptions)
    (spec : Spec) (m : Measurement) :
    ReportOn entry name options spec m
      (spec.evaluate m (Journey.occasion entry.scenario entry.viewport name options)) :=
  ⟨rfl, rfl, rfl, rfl, rfl⟩

end Step

/-- Exchanges that follow steps on the page of an entry, and the result that they lead to. -/
structure Followed (r : Registry) (entry : Plan.Entry) (steps : List Script.Step)
    (xs : List Exchange) (result : Attempt (List Report)) : Prop where
  /-- The calls are those of the first steps, in their order. -/
  asks : List.Forall₂ (fun step x => step.Asks r x.call) (steps.take xs.length) xs
  /-- Nothing is called any more after a call that failed. -/
  stops : ∀ x ∈ xs.dropLast, x.failure? = none
  /-- A failure is that of the last call. -/
  fails : ∀ f, result = .error f ↔ ∃ x ∈ xs.getLast?, x.failure? = some f
  /-- If there is none, all steps have been done, and each snapshot has a report. -/
  reports : ∀ reports, result = .ok reports → xs.length = steps.length ∧
    List.Forall₂ (Step.Gives r entry) ((steps.zip xs).filter (·.1.isSnapshot)) reports

namespace Followed

variable {r : Registry} {entry : Plan.Entry} {step : Script.Step} {rest : List Script.Step}
  {x : Exchange} {xs : List Exchange} {result : Attempt (List Report)}

theorem nil (r : Registry) (entry : Plan.Entry) : Followed r entry [] [] (.ok []) where
  asks := .nil
  stops := by simp
  fails := by simp
  reports := by
    rintro reports hreports
    cases hreports
    exact ⟨rfl, .nil⟩

/-- A step whose call fails is the last that is done. -/
theorem failed (hasks : step.Asks r x.call) {f : Failure} (hfailed : x.failure? = some f) :
    Followed r entry (step :: rest) [x] (.error f) where
  asks := .cons hasks .nil
  stops := by simp
  fails := by simp [hfailed]
  reports := fun _ hreports => nomatch hreports

/-- A step whose call succeeds is done before the rest, and so is its report. -/
theorem cons (h : Followed r entry rest xs result) (hasks : step.Asks r x.call)
    (hdone : x.failure? = none) {told : List Report}
    (htold : List.Forall₂ (Step.Gives r entry) ([(step, x)].filter (·.1.isSnapshot)) told) :
    Followed r entry (step :: rest) (x :: xs) (result.map (told ++ ·)) where
  asks := .cons hasks h.asks
  stops := by
    cases xs with
    | nil => simp
    | cons next xs => exact List.forall_mem_cons.2 ⟨hdone, h.stops⟩
  fails := by
    intro f
    -- The report that is added makes no difference to a failure of the rest.
    have hrest : result.map (told ++ ·) = .error f ↔ result = .error f := by
      cases result <;> simp [Except.map]
    rw [hrest, h.fails f, List.getLast?_cons]
    cases xs.getLast? <;> simp [hdone]
  reports := by
    intro reports hreports
    cases result with
    | error f => cases hreports
    | ok later =>
        cases hreports
        rcases h.reports later rfl with ⟨hlength, hlater⟩
        refine ⟨congrArg (· + 1) hlength, ?_⟩
        have hsplit : ((step :: rest).zip (x :: xs)).filter (·.1.isSnapshot) =
            [(step, x)].filter (·.1.isSnapshot) ++ (rest.zip xs).filter (·.1.isSnapshot) := by
          rw [List.zip_cons_cons, ← List.filter_append, List.singleton_append]
        rw [hsplit]
        exact List.rel_append htold hlater

end Followed
end Script

/-! ## What a script is compiled to -/

namespace Registry

variable {r r' : Registry} {script : Script} {s : Scenario}

/-- Where there are more specs, those that were found before are found again. -/
theorem compile_extends (hmore : r.Extends r') (h : r.compile script = .ok s) :
    r'.compile script = .ok s := by
  rcases compile_ok_iff.1 h with ⟨hsome, hname, hsteps⟩
  refine compile_ok_iff.2 ⟨hsome, hname, hsteps.imp fun step compiled hstep => ?_⟩
  cases step with
  | navigate path => exact hstep
  | snapshot name key options =>
      rcases compileStep_snapshot.1 hstep with ⟨spec, hspec, rfl⟩
      rcases spec_ok_iff.1 hspec with ⟨n, hholds⟩
      exact compileStep_snapshot.2 ⟨spec, spec_ok_iff.2 ⟨n, hmore.holdsSpec hholds⟩, rfl⟩

/-- A script that is registered is found as what it is compiled to. -/
theorem scenario_addScript (h : r.compile script = .ok s) (hadd : r.addScript script = .ok r') :
    r'.scenario script.name = .ok s := by
  rcases exists_of_addScript hadd with ⟨compiled, hcompile, hscenario⟩
  cases h.symm.trans hcompile
  rcases addScenario_ok_iff.1 hscenario with ⟨hfree, rfl⟩
  -- The name was free, so that no scenario is found under it before this one.
  rw [← compile_name h, Registry.scenario, List.find?_append, find?_scenario_eq_none_iff.2 hfree]
  simp

end Registry

/-! ## Journeys -/

namespace Journey

open Script (Followed)

/-- What a journey asks of a browser that keeps a state, with the answers. -/
def exchanges {σ : Type} (browser : σ → (call : Call) → Attempt call.Reply × σ) :
    Journey → σ → List Exchange
  | finished _, _ => []
  | await call next, s =>
      let (answer, s) := browser s call
      ⟨call, answer⟩ :: (next answer).exchanges browser s

section

variable {σ : Type} (browser : σ → (call : Call) → Attempt call.Reply × σ)

theorem exchanges_await (call : Call) (next : Attempt call.Reply → Journey) (s : σ) :
    (await call next).exchanges browser s =
      ⟨call, (browser s call).1⟩ ::
        (next (browser s call).1).exchanges browser (browser s call).2 :=
  rfl

/-- On a page that is open, a journey follows steps and closes the page.  Of its result some reports
were there before. -/
def Follows (r : Registry) (entry : Plan.Entry) (steps : List Script.Step) (told : List Report)
    (j : Journey) (s : σ) : Prop :=
  ∃ xs answer result, j.exchanges browser s = xs ++ [⟨.close, answer⟩] ∧
    Followed r entry steps xs result ∧ (j.travel browser s).1 = result.map (told ++ ·)

variable {browser} {r : Registry} {entry : Plan.Entry} {step : Script.Step}
  {rest : List Script.Step} {told : List Report} {call : Call}
  {next : Attempt call.Reply → Journey} {s : σ}

theorem follows_closing : Follows browser r entry [] told (closing (.ok told)) s := by
  refine ⟨[], (browser s .close).1, .ok [], rfl, .nil r entry, ?_⟩
  simp [closing, travel, Except.map]

theorem follows_of_failed (hasks : step.Asks r call) {f : Failure}
    (hfailed : (browser s call).1 = .error f) (hnext : next (.error f) = closing (.error f)) :
    Follows browser r entry (step :: rest) told (await call next) s := by
  refine ⟨[⟨call, (browser s call).1⟩], (browser (browser s call).2 .close).1, .error f, ?_,
    .failed hasks ?_, ?_⟩
  · rw [exchanges_await, hfailed, hnext]
    rfl
  · rw [hfailed]
    rfl
  · rw [travel_await, hfailed, hnext]
    rfl

theorem Follows.cons {answer : Attempt call.Reply} {more : List Report}
    (h : Follows browser r entry rest (told ++ more) (next answer) (browser s call).2)
    (hanswer : (browser s call).1 = answer) (hasks : step.Asks r call)
    (hdone : Exchange.failure? ⟨call, answer⟩ = none)
    (hmore : List.Forall₂ (Script.Step.Gives r entry)
      ([(step, (⟨call, answer⟩ : Exchange))].filter (·.1.isSnapshot)) more) :
    Follows browser r entry (step :: rest) told (await call next) s := by
  rcases h with ⟨xs, last, result, hexchanges, hfollowed, hresult⟩
  refine ⟨⟨call, answer⟩ :: xs, last, result.map (more ++ ·), ?_,
    hfollowed.cons hasks hdone hmore, ?_⟩
  · rw [exchanges_await, hanswer, hexchanges, List.cons_append]
  · rw [travel_await, hanswer, hresult]
    cases result <;> simp [Except.map]

/-- By induction on the script: each step asks for its call, and goes on if that succeeds. -/
theorem follows_perform {steps : List Script.Step} {compiled : List Scenario.Step}
    (hsteps : List.Forall₂ (fun step compiled => r.compileStep step = .ok compiled) steps compiled)
    (told : List Report) (s : σ) :
    Follows browser r entry steps told
      (perform entry.scenario entry.viewport (.ofSteps compiled) told) s := by
  induction hsteps generalizing told s with
  | nil => exact follows_closing
  | @cons step _ rest _ hstep _ ih =>
      cases step with
      | navigate path =>
          rw [Registry.compileStep_navigate.1 hstep, Routine.ofSteps, perform]
          have hasks : Script.Step.Asks r (.navigate path) (.navigate path) := .navigate path
          cases hanswer : (browser s (.navigate path)).1 with
          | error f => exact follows_of_failed hasks hanswer rfl
          | ok page =>
              -- Nothing is reported on a page that was only navigated.
              have hrest := ih (told ++ []) (browser s (.navigate path)).2
              exact Follows.cons (by simpa using hrest) hanswer hasks rfl .nil
      | snapshot name key options =>
          -- The spec is at hand since it was found under the key of the step.
          rcases Registry.compileStep_snapshot.1 hstep with ⟨spec, hspec, rfl⟩
          rw [Routine.ofSteps, perform]
          have hasks : Script.Step.Asks r (.snapshot name key options) (.measure spec) :=
            .measure hspec
          cases hanswer : (browser s (.measure spec)).1 with
          | error f => exact follows_of_failed hasks hanswer rfl
          | ok m =>
              have hreport := Script.Step.reportOn_evaluate entry name options spec m
              exact (ih _ _).cons hanswer hasks rfl (.cons (.snapshot hspec hreport) .nil)

/-- Without a page nothing else is called. -/
theorem visit_of_refused (routine : Routine) {f : Failure}
    (hpage : (browser s (.openPage entry.viewport)).1 = .error f) :
    (visit entry.scenario entry.viewport routine).exchanges browser s =
        [⟨.openPage entry.viewport, .error f⟩] ∧
      ((visit entry.scenario entry.viewport routine).travel browser s).1 = .error f := by
  rw [visit, exchanges_await, travel_await, hpage]
  exact ⟨rfl, rfl⟩

theorem followed_visit {steps : List Script.Step} {compiled : List Scenario.Step}
    (hsteps : List.Forall₂ (fun step compiled => r.compileStep step = .ok compiled) steps compiled)
    (hpage : (browser s (.openPage entry.viewport)).1 = .ok ()) :
    ∃ ys answer,
      (visit entry.scenario entry.viewport (.ofSteps compiled)).exchanges browser s =
          opened entry.viewport :: ys ++ [⟨.close, answer⟩] ∧
        Followed r entry steps ys
          ((visit entry.scenario entry.viewport (.ofSteps compiled)).travel browser s).1 := by
  have hfollows : Follows browser r entry steps []
      (perform entry.scenario entry.viewport (.ofSteps compiled) [])
      (browser s (.openPage entry.viewport)).2 := follows_perform hsteps [] _
  rcases hfollows with ⟨ys, answer, result, hexchanges, hfollowed, hresult⟩
  refine ⟨ys, answer, ?_, ?_⟩
  · rw [visit, exchanges_await, hpage]
    exact congrArg (opened entry.viewport :: ·) hexchanges
  · have hmap : result.map (([] : List Report) ++ ·) = result := by
      cases result <;> rfl
    rw [visit, travel_await, hpage]
    exact (hresult.trans hmap) ▸ hfollowed

end

/-- What a script is compiled to does not change when more is registered, and neither does the
journey of an entry for it.  Whatever the browser answers: if there is a page at all, the script is
followed on it with the specs that it was compiled with, and the page is closed. -/
theorem compiled_script_is_followed {r : Registry} {script : Script} {scenario : Scenario}
    (hcompile : r.compile script = .ok scenario) :
    (∀ later, (r.after later).compile script = .ok scenario) ∧
    (∀ r' later (entry : Plan.Entry), r.addScript script = .ok r' → entry.scenario = script.name →
      ofEntry (r'.after later) entry =
        visit entry.scenario entry.viewport (.ofSteps scenario.steps)) ∧
    ∀ (entry : Plan.Entry) {σ : Type} (browser : σ → (call : Call) → Attempt call.Reply × σ)
      (start : σ),
      let journey := visit entry.scenario entry.viewport (.ofSteps scenario.steps)
      let xs := journey.exchanges browser start
      let result := (journey.travel browser start).1
      (∃ f, xs = [⟨.openPage entry.viewport, .error f⟩] ∧ result = .error f) ∨
      ∃ ys answer, xs = opened entry.viewport :: ys ++ [⟨.close, answer⟩] ∧
        Followed r entry script.steps ys result ∧
        -- Nothing but an answer of the page can say that a spec is missing.
        ∀ key, result = .error (.unknownSpec key) →
          ∃ x ∈ ys, x.failure? = some (.unknownSpec key) := by
  refine ⟨fun later => Registry.compile_extends (Registry.extends_after r later) hcompile, ?_, ?_⟩
  · intro r' later entry hadd hentry
    rcases Registry.scenario_after (Registry.scenario_addScript hcompile hadd) with ⟨_, hlater⟩
    exact ofEntry_of_ok (hentry ▸ (hlater later).1)
  · intro entry σ browser start journey xs result
    cases hpage : (browser start (.openPage entry.viewport)).1 with
    | error f => exact .inl ⟨f, visit_of_refused _ hpage⟩
    | ok page =>
        rcases followed_visit (Registry.compile_ok_iff.1 hcompile).2.2 hpage with
          ⟨ys, answer, hexchanges, hfollowed⟩
        refine .inr ⟨ys, answer, hexchanges, hfollowed, fun key hkey => ?_⟩
        rcases (hfollowed.fails _).1 hkey with ⟨x, hlast, hfailed⟩
        exact ⟨x, List.mem_of_getLast? hlast, hfailed⟩

/-- The third call on a page fails, so that the last snapshot is not taken. -/
theorem compiled_script_is_followed_to_failure :
    let frame : Spec := ⟨[], [], [], []⟩
    let r : Registry := ⟨[("frame", frame)], []⟩
    let script : Script := ⟨"home", "", [.navigate "/", .snapshot "top" "frame" ⟨some "wide", none⟩,
      .navigate "/gone", .snapshot "rest" "frame" ⟨none, none⟩]⟩
    let steps : List Scenario.Step := [.navigate "/", .snapshot "top" frame ⟨some "wide", none⟩,
      .navigate "/gone", .snapshot "rest" frame ⟨none, none⟩]
    let entry : Plan.Entry := ⟨0, "home", ⟨"w", 1, 1⟩⟩
    let browser : Nat → (call : Call) → Attempt call.Reply × Nat := fun n call => (match call with
      | .navigate path => if n = 3 then .error (.navigation path "404") else .ok ()
      | .measure _ => .ok (default : Measurement)
      | .openPage _ | .close => .ok (), n + 1)
    r.compile script = .ok ⟨"home", steps⟩ ∧
      (∃ r', r.addScript script = .ok r' ∧ ∀ later, ofEntry (r'.after later) entry =
        visit "home" entry.viewport (.ofSteps steps)) ∧
      ∃ ys answer,
        (visit "home" entry.viewport (.ofSteps steps)).exchanges browser 0 =
          opened entry.viewport :: ys ++ [⟨.close, answer⟩] ∧
        ys.map (·.call) = [.navigate "/", .measure frame, .navigate "/gone"] ∧
        Followed r entry script.steps ys (.error (.navigation "/gone" "404")) := by
  intro frame r script steps entry browser
  have hcompile : r.compile script = .ok ⟨"home", steps⟩ := rfl
  rcases compiled_script_is_followed hcompile with ⟨-, hlater, hruns⟩
  refine ⟨hcompile, ?_, ?_⟩
  · exact ⟨⟨r.specs, [⟨"home", steps⟩]⟩, rfl, fun later => hlater _ later entry rfl rfl⟩
  · rcases hruns entry browser 0 with ⟨f, hexchanges, -⟩ | ⟨ys, answer, hexchanges, hfollowed, -⟩
    · cases hexchanges
    · have hrun : (visit "home" entry.viewport (.ofSteps steps)).exchanges browser 0 =
          [opened entry.viewport, ⟨.navigate "/", Except.ok ()⟩,
            ⟨.measure frame, Except.ok (default : Measurement)⟩,
            ⟨.navigate "/gone", .error (.navigation "/gone" "404")⟩, ⟨.close, Except.ok ()⟩] := by
        simp [visit, exchanges_await, exchanges, opened, Routine.ofSteps, perform, closing, browser,
          steps]
      have hresult : ((visit "home" entry.viewport (.ofSteps steps)).travel browser 0).1 =
          .error (.navigation "/gone" "404") := by
        simp [visit, travel_await, travel, Except.map, Routine.ofSteps, perform, closing, browser,
          steps]
      have hys := congrArg (fun xs => xs.tail.dropLast) (hrun.symm.trans hexchanges)
      refine ⟨ys, answer, hexchanges, ?_, hresult ▸ hfollowed⟩
      rw [show ys = _ by simpa using hys.symm]
      rfl

end Journey
end LayoutAudit
