import LayoutAudit.Proofs.Run.Lifecycle
import LayoutAudit.Proofs.Run.Preparation
import LayoutAudit.Proofs.Run.Schedule

/-!
# Proofs.Run.Reports — which reports a run gives

A run that came to its end without a failure has one item for each entry of its plan, in the order
of the plan.  The reports of an item are those of the snapshots of its scenario, in their order, each
of them on what was measured for it.

* `Journey.Told` — steps that were carried out, with what was answered and reported;
* `Journey.Course`, `Journey.Past.course` — how far the journey of a scenario has come;
* `Note.unique_of_finished` — no entry has two results;
* `Crew.items_of_result` — the items of a run were recorded in its course;
* `Outcome.Complete`, `Run.complete_of_result` — what a run gives.
-/

namespace LayoutAudit

open Exchange (opened)

/-! ## Journeys -/

namespace Journey

variable {entry : Plan.Entry} {steps : List Scenario.Step} {xs : List Exchange} {j : Journey}

/-- Steps that were carried out on the page of an entry, what was asked and answered for them, and
the reports that came of it. -/
inductive Told (entry : Plan.Entry) :
    List Scenario.Step → List Exchange → List Report → Prop where
  | nothing : Told entry [] [] []
  | navigated {steps : List Scenario.Step} {xs : List Exchange} {reports : List Report}
      (htold : Told entry steps xs reports) (path : String) :
      Told entry (steps ++ [.navigate path]) (xs ++ [⟨.navigate path, Except.ok ()⟩]) reports
  /-- What was measured is reported behind what was reported before. -/
  | measured {steps : List Scenario.Step} {xs : List Exchange} {reports : List Report}
      (htold : Told entry steps xs reports) (name : String) (spec : Spec)
      (options : SnapshotOptions) (m : Measurement) :
      Told entry (steps ++ [.snapshot name spec options]) (xs ++ [⟨.measure spec, Except.ok m⟩])
        (reports ++ [spec.evaluate m (occasion entry.scenario entry.viewport name options)])

/-- How far the journey of a scenario has come, and what it has to tell. -/
inductive Course (entry : Plan.Entry) (steps : List Scenario.Step) :
    List Exchange → Journey → Prop where
  | outside : Course entry steps [] (visit entry.scenario entry.viewport (.ofSteps steps))
  | inside {done rest : List Scenario.Step} {xs : List Exchange} {reports : List Report}
      (hsteps : done ++ rest = steps) (htold : Told entry done xs reports) :
      Course entry steps (opened entry.viewport :: xs)
        (perform entry.scenario entry.viewport (.ofSteps rest) reports)
  | failing {xs : List Exchange} (f : Failure) : Course entry steps xs (closing (.error f))
  | failed {xs : List Exchange} (f : Failure) : Course entry steps xs (finished (.error f))
  | ended {xs : List Exchange} {reports : List Report} (htold : Told entry steps xs reports)
      (answer : Attempt Call.close.Reply) :
      Course entry steps (opened entry.viewport :: xs ++ [⟨.close, answer⟩])
        (finished (.ok reports))

theorem Course.further {call : Call} {next : Attempt call.Reply → Journey}
    (hcourse : Course entry steps xs (await call next)) (answer : Attempt call.Reply) :
    Course entry steps (xs ++ [⟨call, answer⟩]) (next answer) := by
  generalize hjourney : await call next = j at hcourse
  cases hcourse with
  | outside =>
      cases hjourney
      cases answer with
      | ok page => exact .inside rfl .nothing
      | error f => exact .failed f
  | @inside done rest xs reports hsteps htold =>
      rcases rest with _ | ⟨path | ⟨name, spec, options⟩, rest⟩
      · -- All steps have been done, and the page is closed.
        cases hjourney
        rw [List.append_nil] at hsteps
        exact .ended (hsteps ▸ htold) answer
      · cases hjourney
        cases answer with
        | ok page => exact .inside (by simpa using hsteps) (htold.navigated path)
        | error f => exact .failing f
      · rw [Routine.ofSteps, perform] at hjourney
        cases hjourney
        cases answer with
        | ok m => exact .inside (by simpa using hsteps) (htold.measured name spec options m)
        | error f => exact .failing f
  | failing f =>
      cases hjourney
      exact .failed f
  | failed f => cases hjourney
  | ended htold last => cases hjourney

theorem Past.course
    (hpast : Past (visit entry.scenario entry.viewport (.ofSteps steps)) xs j) :
    Course entry steps xs j := by
  induction hpast with
  | start => exact .outside
  | further _ answer ih => exact ih.further answer

theorem Course.told {reports : List Report}
    (hcourse : Course entry steps xs (finished (.ok reports))) :
    ∃ ys answer, xs = opened entry.viewport :: ys ++ [⟨.close, answer⟩] ∧
      Told entry steps ys reports := by
  generalize hjourney : finished (.ok reports) = j at hcourse
  cases hcourse with
  | outside => cases hjourney
  | @inside done rest xs told hsteps htold =>
      rcases rest with _ | ⟨path | ⟨name, spec, options⟩, rest⟩
      · cases hjourney
      · cases hjourney
      · rw [Routine.ofSteps, perform] at hjourney
        cases hjourney
  | failing f => cases hjourney
  | failed f => cases hjourney
  | ended htold answer =>
      cases hjourney
      exact ⟨_, answer, rfl, htold⟩

end Journey

open Journey (Told)

/-! ## Results -/

theorem Note.unique_of_finished {notes : List Note} (honce : (finished notes).Nodup)
    {entry : Plan.Entry} {result result' : Attempt (List Report)}
    (hnote : recorded entry result ∈ notes) (hnote' : recorded entry result' ∈ notes) :
    result = result' := by
  induction notes with
  | nil => cases hnote
  | cons note notes ih =>
      cases note with
      | claimed other =>
          exact ih honce (List.mem_of_ne_of_mem (by simp) hnote)
            (List.mem_of_ne_of_mem (by simp) hnote')
      | called other call =>
          exact ih honce (List.mem_of_ne_of_mem (by simp) hnote)
            (List.mem_of_ne_of_mem (by simp) hnote')
      | recorded other first =>
          rw [finished_recorded, List.nodup_cons] at honce
          -- What is finished here is not finished again.
          have hagain {last : Attempt (List Report)} (hlater : recorded other last ∈ notes) : False :=
            honce.1 (mem_finished_iff.mpr ⟨last, hlater⟩)
          rcases List.mem_cons.mp hnote with hhere | hlater
          · cases hhere
            rcases List.mem_cons.mp hnote' with hhere' | hlater'
            · cases hhere'
              rfl
            · exact (hagain hlater').elim
          · rcases List.mem_cons.mp hnote' with hhere' | hlater'
            · cases hhere'
              exact (hagain hlater).elim
            · exact ih honce.2 hlater hlater'

namespace Crew

variable {journey : Plan.Entry → Journey} {p : Plan} {workers : Nat} {events : List Event}
  {items : List Item}

/-- In a run that came to its end, each entry of the plan has an item, with the reports that were
recorded for it. -/
theorem items_of_result (hworkers : 0 < workers)
    (hdone : ((assemble p workers).run journey events).isDone = true)
    (hresult : ((assemble p workers).run journey events).result = .ok items) :
    items.map Item.entry = p.entries ∧
      ∀ item ∈ items,
        .recorded item.entry (.ok item.reports) ∈ (assemble p workers).story journey events := by
  have hfailure : ((assemble p workers).run journey events).ledger.failure = none := by
    cases hfailed : ((assemble p workers).run journey events).ledger.failure with
    | none => rfl
    | some f => simp [result, hfailed] at hresult
  have hnoFailures : Note.failures ((assemble p workers).story journey events) = [] := by
    rw [failure_run] at hfailure
    exact List.head?_eq_none_iff.mp hfailure
  have hfinished := finished_perm_entries hworkers hdone hfailure
  have honce := hfinished.nodup_iff.mpr p.entries_nodup
  -- No entry failed, so that each of them has reports.
  have hrecorded : ∀ entry ∈ p.entries, ∃ reports,
      .recorded entry (.ok reports) ∈ (assemble p workers).story journey events := by
    intro entry hentry
    rcases Note.mem_finished_iff.mp (hfinished.mem_iff.mpr hentry) with ⟨result, hnote⟩
    cases result with
    | ok reports => exact ⟨reports, hnote⟩
    | error f =>
        have hfailed := Note.mem_failures_iff.mpr ⟨entry, hnote⟩
        rw [hnoFailures] at hfailed
        cases hfailed
  choose! reports hreports using hrecorded
  have hresults : ∀ {entry result},
      .recorded entry result ∈ (assemble p workers).story journey events →
        result = .ok (reports entry) := by
    intro entry result hnote
    exact Note.unique_of_finished honce hnote (hreports entry (mem_entries_of_recorded hnote))
  have hitems := result_eq_ok hresults hworkers hdone fun _ _ => rfl
  rw [hresult, Except.ok.injEq] at hitems
  rw [hitems, List.map_map]
  refine ⟨List.map_id p.entries, ?_⟩
  intro item hitem
  rcases List.mem_map.mp hitem with ⟨entry, hentry, rfl⟩
  exact hreports entry hentry

end Crew

/-! ## Outcomes -/

/-- The items are those of a plan, in its order, and their reports those of the snapshots of their
scenarios, in their order, on what was measured in the course of the run. -/
structure Outcome.Complete (o : Outcome) (run : Run) (log : List (Plan.Entry × Exchange)) :
    Prop where
  entries : o.items.map Item.entry = run.plan.entries
  told : ∀ item ∈ o.items, ∃ scenario ys answer,
    run.registry.scenario item.entry.scenario = .ok scenario ∧
      item.entry.part log = opened item.entry.viewport :: ys ++ [⟨.close, answer⟩] ∧
      Told item.entry scenario.steps ys item.reports

namespace Run

variable {run : Run} {workers : Nat} {events : List Crew.Event} {o : Outcome}

theorem complete_of_result
    (hfound : run.plan.FoundIn run.registry)
    (hworkers : 0 < workers)
    (hdone : ((Crew.assemble run.plan workers).run run.journey events).isDone = true)
    (hresult : ((Crew.assemble run.plan workers).run run.journey events).result.map Outcome.mk =
      .ok o) :
    o.Complete run ((Crew.assemble run.plan workers).exchanges run.journey events) := by
  cases hitems : ((Crew.assemble run.plan workers).run run.journey events).result with
  | error f =>
      rw [hitems] at hresult
      cases hresult
  | ok items =>
      rw [hitems] at hresult
      cases hresult
      rcases Crew.items_of_result hworkers hdone hitems with ⟨hentries, hrecorded⟩
      refine ⟨hentries, ?_⟩
      intro item hitem
      have hentry : item.entry ∈ run.plan.entries :=
        Crew.mem_entries_of_recorded (hrecorded item hitem)
      rcases hfound item.entry hentry with ⟨scenario, hscenario⟩
      have hkept := Crew.kept_run run.journey run.plan workers events
      have hpast := (hkept.recorded (hrecorded item hitem)).past
      rw [journey, Journey.ofEntry_of_ok hscenario] at hpast
      rcases hpast.course.told with ⟨ys, answer, hpart, htold⟩
      exact ⟨scenario, ys, answer, hscenario, hpart, htold⟩

end Run
end LayoutAudit
