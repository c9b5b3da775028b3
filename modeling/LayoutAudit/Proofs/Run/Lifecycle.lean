import LayoutAudit.Proofs.Run.Exchange

/-!
# Proofs.Run.Lifecycle — the life of a page

A page is opened, the steps of the scenario are carried out on it up to the first that fails, and
it is closed.  Nothing in the course of a run interferes: neither the other workers, nor a failure
elsewhere, nor the answer to the closing call.

* `Scenario.Step.call` — the call of a step;
* `Exchange.Carried` — calls that are made in order, up to and including the first that fails;
* `Exchange.Life` — all that is asked and answered on a page;
* `Journey.Standing` — where the journey of a scenario stands after exchanges;
* `Crew.openPages` — the pages that are open;
* `Crew.page_lifecycle` — every page of a run has such a life, and no worker has two pages open.
-/

namespace LayoutAudit

def Scenario.Step.call : Scenario.Step → Call
  | navigate path => .navigate path
  | snapshot _ spec _ => .measure spec

def Call.closesPage : Call → Bool
  | close => true
  | _ => false

def Attempt.failure? {α : Type} : Attempt α → Option Failure
  | .ok _ => none
  | .error f => some f

namespace Exchange

def opens (x : Exchange) : Bool := x.call.opensPage && x.failure?.isNone

/-- Was a page closed?  One that could not be closed properly is gone all the same. -/
def closes (x : Exchange) : Bool := x.call.closesPage

def leaveOpen (xs : List Exchange) : Bool := xs.any opens && !xs.any closes

def opened (viewport : Viewport) : Exchange := ⟨.openPage viewport, Except.ok ()⟩

/-- Exchanges for calls in order, up to and including the first that fails, with its failure. -/
inductive Carried (calls : List Call) : List Exchange → Option Failure → Prop where
  | whole {xs : List Exchange} (hcalls : xs.map (·.call) = calls)
      (hdone : ∀ x ∈ xs, x.failure? = none) : Carried calls xs none
  | cut {xs : List Exchange} {last : Exchange} {rest : List Call} {f : Failure}
      (hcalls : xs.map (·.call) ++ last.call :: rest = calls)
      (hdone : ∀ x ∈ xs, x.failure? = none) (hlast : last.failure? = some f) :
      Carried calls (xs ++ [last]) (some f)

/-- All exchanges on a page with the result that they lead to.  Either it cannot be opened, or calls
are carried out on it and it is closed, whatever comes of that. -/
inductive Life (viewport : Viewport) (calls : List Call) :
    List Exchange → Attempt (List Report) → Prop where
  | refused (f : Failure) : Life viewport calls [⟨.openPage viewport, .error f⟩] (.error f)
  | closed {xs : List Exchange} {result : Attempt (List Report)}
      (hcarried : Carried calls xs (Attempt.failure? result)) (answer : Attempt Call.close.Reply) :
      Life viewport calls (opened viewport :: xs ++ [⟨.close, answer⟩]) result

theorem Life.not_leaveOpen {viewport : Viewport} {calls : List Call} {xs : List Exchange}
    {result : Attempt (List Report)} (hlife : Life viewport calls xs result) :
    leaveOpen xs = false := by
  cases hlife with
  | refused f => rfl
  | closed hcarried answer => simp [leaveOpen, closes, Call.closesPage]

end Exchange

namespace Journey

open Exchange (Carried Life opened)

variable {entry : Plan.Entry} {steps : List Scenario.Step} {xs : List Exchange} {j : Journey}

/-- Where the journey of a scenario stands after exchanges. -/
inductive Standing (entry : Plan.Entry) (steps : List Scenario.Step) :
    List Exchange → Journey → Prop where
  | outside : Standing entry steps [] (visit entry.scenario entry.viewport (.ofSteps steps))
  /-- Some steps have been done, and the rest is ahead. -/
  | inside {xs : List Exchange} {rest : List Scenario.Step} {reports : List Report}
      (hcalls : xs.map (·.call) ++ rest.map Scenario.Step.call = steps.map Scenario.Step.call)
      (hdone : ∀ x ∈ xs, x.failure? = none) :
      Standing entry steps (opened entry.viewport :: xs)
        (perform entry.scenario entry.viewport (.ofSteps rest) reports)
  | leaving {xs : List Exchange} {result : Attempt (List Report)}
      (hcarried : Carried (steps.map Scenario.Step.call) xs (Attempt.failure? result)) :
      Standing entry steps (opened entry.viewport :: xs) (closing result)
  | ended {xs : List Exchange} {result : Attempt (List Report)}
      (hlife : Life entry.viewport (steps.map Scenario.Step.call) xs result) :
      Standing entry steps xs (.finished result)

theorem carried_of_inside {reports : List Report}
    (hcalls : xs.map (·.call) ++ ([] : List Scenario.Step).map Scenario.Step.call =
      steps.map Scenario.Step.call) (hdone : ∀ x ∈ xs, x.failure? = none) :
    Carried (steps.map Scenario.Step.call) xs
      (Attempt.failure? (.ok reports : Attempt (List Report))) :=
  .whole (by simpa using hcalls) hdone

theorem Standing.step (entry : Plan.Entry) {rest : List Scenario.Step} {s : Scenario.Step}
    (hcalls : xs.map (·.call) ++ (s :: rest).map Scenario.Step.call =
      steps.map Scenario.Step.call) (hdone : ∀ x ∈ xs, x.failure? = none) :
    (∀ (answer : Attempt s.call.Reply) (reports : List Report),
      Exchange.failure? ⟨s.call, answer⟩ = none →
      Standing entry steps (opened entry.viewport :: xs ++ [⟨s.call, answer⟩])
        (perform entry.scenario entry.viewport (.ofSteps rest) reports)) ∧
    (∀ f : Failure,
      Standing entry steps (opened entry.viewport :: xs ++ [⟨s.call, .error f⟩])
        (closing (.error f))) := by
  constructor
  -- The step was done, and the rest is ahead.
  · intro answer reports hanswer
    refine .inside (by simpa using hcalls) fun x hx => ?_
    rcases List.mem_append.mp hx with hold | hnew
    · exact hdone x hold
    · rw [List.mem_singleton.mp hnew, hanswer]
  -- The step failed, and what was to come after it is left out.
  · intro f
    exact .leaving (.cut (by simpa using hcalls) hdone rfl)

theorem Standing.further {call : Call} {next : Attempt call.Reply → Journey}
    (hstanding : Standing entry steps xs (await call next)) (answer : Attempt call.Reply) :
    Standing entry steps (xs ++ [⟨call, answer⟩]) (next answer) := by
  -- The journey decides which call is next, so that the stage decides what an answer to it does.
  generalize hjourney : await call next = j at hstanding
  cases hstanding with
  | outside =>
      cases hjourney
      cases answer with
      | ok page => exact .inside rfl (by simp)
      | error f => exact .ended (.refused f)
  | @inside xs rest reports hcalls hdone =>
      cases rest with
      | nil =>
          cases hjourney
          exact .ended (.closed (carried_of_inside hcalls hdone) answer)
      | cons s rest =>
          have hstep := Standing.step entry hcalls hdone
          cases s with
          | navigate path =>
              cases hjourney
              cases answer with
              | ok _ => exact hstep.1 (.ok ()) _ rfl
              | error f => exact hstep.2 f
          | snapshot name spec options =>
              rw [Routine.ofSteps, perform] at hjourney
              cases hjourney
              cases answer with
              | ok m => exact hstep.1 (Except.ok m) _ rfl
              | error f => exact hstep.2 f
  | leaving hcarried =>
      cases hjourney
      exact .ended (.closed hcarried answer)
  | ended hlife => cases hjourney

theorem Past.standing
    (hpast : Past (visit entry.scenario entry.viewport (.ofSteps steps)) xs j) :
    Standing entry steps xs j := by
  -- Each exchange is one step of the induction, and `further` says what it comes to.
  induction hpast with
  | start => exact .outside
  | further _ answer ih => exact ih.further answer

/-- Where there is a result the life of the page is over. -/
theorem Standing.life {result : Attempt (List Report)}
    (hstanding : Standing entry steps xs (finished result)) :
    Life entry.viewport (steps.map Scenario.Step.call) xs result := by
  generalize hjourney : finished result = j at hstanding
  cases hstanding with
  | outside => cases hjourney
  | @inside xs rest reports hcalls hdone =>
      rcases rest with _ | ⟨path | ⟨name, spec, options⟩, rest⟩
      · cases hjourney
      · cases hjourney
      · rw [Routine.ofSteps, perform] at hjourney
        cases hjourney
  | leaving hcarried => cases hjourney
  | ended hlife =>
      cases hjourney
      exact hlife

/-- What is left after the closing call does not depend on its answer. -/
theorem Standing.next_of_close {next : Attempt Call.close.Reply → Journey}
    (hstanding : Standing entry steps xs (await .close next)) (answer answer' : Attempt Unit) :
    next answer = next answer' := by
  generalize hjourney : await .close next = j at hstanding
  cases hstanding with
  | outside => cases hjourney
  | @inside xs rest reports hcalls hdone =>
      rcases rest with _ | ⟨path | ⟨name, spec, options⟩, rest⟩
      · cases hjourney
        rfl
      · cases hjourney
      · rw [Routine.ofSteps, perform] at hjourney
        cases hjourney
  | leaving hcarried =>
      cases hjourney
      rfl
  | ended hlife => cases hjourney

/-- From wherever a journey stands a life can be completed, and the next call is part of it. -/
theorem Standing.exists_life (hstanding : Standing entry steps xs j) :
    ∃ more result, Life entry.viewport (steps.map Scenario.Step.call) (xs ++ more) result ∧
      j.call?.toList <+: more.map (·.call) := by
  cases hstanding with
  | outside => exact ⟨_, _, .refused .browserMissing, by simp [visit, call?]⟩
  | @inside xs rest reports hcalls hdone =>
      cases rest with
      | nil =>
          refine ⟨[⟨.close, .ok ()⟩], .ok reports,
            .closed (carried_of_inside hcalls hdone) (.ok ()), ?_⟩
          simp [Routine.ofSteps, perform, closing, call?]
      | cons s rest =>
          have hcarried : Carried (steps.map Scenario.Step.call)
              (xs ++ [⟨s.call, .error .browserMissing⟩]) (some .browserMissing) :=
            .cut (by simpa using hcalls) hdone rfl
          refine ⟨[⟨s.call, .error .browserMissing⟩, ⟨.close, .ok ()⟩], .error .browserMissing, ?_,
            ?_⟩
          · have hlife : Life entry.viewport (steps.map Scenario.Step.call)
                (opened entry.viewport :: (xs ++ [⟨s.call, .error .browserMissing⟩]) ++
                  [⟨.close, .ok ()⟩]) (.error .browserMissing) := .closed hcarried (.ok ())
            simpa using hlife
          · cases s <;> simp [Routine.ofSteps, perform, call?, Scenario.Step.call]
  | @leaving xs result hcarried =>
      exact ⟨[⟨.close, .ok ()⟩], result, .closed hcarried (.ok ()), by simp [closing, call?]⟩
  | @ended _ result hlife => exact ⟨[], result, by simpa using hlife, by simp [call?]⟩

/-! ## The journeys of entries -/

theorem ofEntry_of_ok {r : Registry} {scenario : Scenario}
    (hscenario : r.scenario entry.scenario = .ok scenario) :
    ofEntry r entry = visit entry.scenario entry.viewport (.ofSteps scenario.steps) := by
  simp [ofEntry, following, Registry.routine, hscenario, pure, Except.pure, bind, Except.bind]

theorem ofEntry_of_error {r : Registry} {f : Failure}
    (hscenario : r.scenario entry.scenario = .error f) :
    ofEntry r entry = finished (.error f) := by
  simp [ofEntry, following, Registry.routine, hscenario, bind, Except.bind]

/-- A journey that is over leads nowhere. -/
theorem Past.of_finished {result : Attempt (List Report)} (hpast : Past (finished result) xs j) :
    xs = [] ∧ j = finished result := by
  induction hpast with
  | start => exact ⟨rfl, rfl⟩
  | further _ answer ih => cases ih.2

theorem Reached.standing {r : Registry} {scenario : Scenario} {begun : List Call}
    (hscenario : r.scenario entry.scenario = .ok scenario)
    (hreached : (ofEntry r entry).Reached begun xs j) : Standing entry scenario.steps xs j := by
  have hpast := hreached.past
  rw [ofEntry_of_ok hscenario] at hpast
  exact hpast.standing

end Journey

namespace Crew

open Exchange (Life leaveOpen)

variable {r : Registry} {p : Plan} {c : Crew} {story : List Note}
  {log : List (Plan.Entry × Exchange)} {entry : Plan.Entry}

/-- The entries whose pages are open after exchanges. -/
def openPages (p : Plan) (log : List (Plan.Entry × Exchange)) : List Plan.Entry :=
  p.entries.filter fun entry => leaveOpen (entry.part log)

/-- An entry that was claimed has a result, or a worker is in the middle of it. -/
theorem Chronicle.finished_or_waiting (hchronicle : Chronicle p story c)
    (hentry : entry ∈ Note.claims story) :
    (∃ result, .recorded entry result ∈ story) ∨ entry ∈ c.inHand :=
  (List.mem_append.mp (hchronicle.held.mem_iff.mp hentry)).imp_left Note.mem_finished_iff.mp

theorem exists_waiting_of_inHand (hentry : entry ∈ c.inHand) :
    ∃ (i : Nat) (call : Call) (next : Attempt call.Reply → Journey),
      c.workers[i]? = some (.waiting entry call next) := by
  rcases List.mem_filterMap.mp hentry with ⟨worker, hworker, hheld⟩
  rcases List.mem_iff_getElem?.mp hworker with ⟨i, hindex⟩
  cases worker with
  | idle => simp at hheld
  | waiting other call next =>
      rw [Worker.held?_waiting, Option.some.injEq] at hheld
      exact ⟨i, call, next, hheld ▸ hindex⟩
  | stopped => simp at hheld

/-! ## Pages of entries -/

theorem Kept.life (hkept : Kept (Journey.ofEntry r) story log c) {scenario : Scenario}
    (hscenario : r.scenario entry.scenario = .ok scenario) {result : Attempt (List Report)}
    (hnote : .recorded entry result ∈ story) :
    Life entry.viewport (scenario.steps.map Scenario.Step.call) (entry.part log) result ∧
      entry.part (Note.calls story) = (entry.part log).map (·.call) := by
  have hreached := hkept.recorded hnote
  exact ⟨(hreached.standing hscenario).life, by simpa [Journey.call?] using hreached.begun_eq⟩

/-- An entry has come somewhere on its journey, or nothing has happened to it. -/
theorem Kept.reached_or_untouched {journey : Plan.Entry → Journey}
    (hkept : Kept journey story log c) (hchronicle : Chronicle p story c) (entry : Plan.Entry) :
    (∃ left, (journey entry).Reached (entry.part (Note.calls story)) (entry.part log) left) ∨
      (entry.part (Note.calls story) = [] ∧ entry.part log = []) := by
  by_cases hclaimed : entry ∈ Note.claims story
  · rcases hchronicle.finished_or_waiting hclaimed with ⟨result, hnote⟩ | hheld
    · exact .inl ⟨_, hkept.recorded hnote⟩
    · rcases exists_waiting_of_inHand hheld with ⟨i, call, next, hworker⟩
      exact .inl ⟨_, hkept.waiting hworker⟩
  · exact .inr (hkept.unclaimed hclaimed)

/-- Whatever has happened on a page so far, it is the beginning of a life. -/
theorem Kept.exists_life (hkept : Kept (Journey.ofEntry r) story log c)
    (hchronicle : Chronicle p story c) {scenario : Scenario}
    (hscenario : r.scenario entry.scenario = .ok scenario) :
    ∃ more result,
      Life entry.viewport (scenario.steps.map Scenario.Step.call) (entry.part log ++ more) result ∧
      entry.part (Note.calls story) <+: (entry.part log ++ more).map (·.call) := by
  rcases hkept.reached_or_untouched hchronicle entry with ⟨left, hreached⟩ | ⟨hcalls, hlog⟩
  · rcases (hreached.standing hscenario).exists_life with ⟨more, result, hlife, later, hlater⟩
    refine ⟨more, result, hlife, later, ?_⟩
    rw [hreached.begun_eq, List.map_append, List.append_assoc, hlater]
  · rw [hcalls, hlog]
    exact ⟨_, _, .refused .browserMissing, _, rfl⟩

theorem Kept.untouched (hkept : Kept (Journey.ofEntry r) story log c)
    (hchronicle : Chronicle p story c) {f : Failure}
    (hscenario : r.scenario entry.scenario = .error f) :
    entry.part log = [] ∧ entry.part (Note.calls story) = [] := by
  rcases hkept.reached_or_untouched hchronicle entry with ⟨left, hreached⟩ | hnothing
  · have hpast := hreached.past
    rw [Journey.ofEntry_of_error hscenario] at hpast
    rcases hpast.of_finished with ⟨hlog, hleft⟩
    exact ⟨hlog, by rw [hreached.begun_eq, hlog, hleft]; rfl⟩
  · exact hnothing.symm

/-- A page that is open belongs to an entry that a worker is in the middle of. -/
theorem Kept.inHand_of_leaveOpen (hkept : Kept (Journey.ofEntry r) story log c)
    (hchronicle : Chronicle p story c) (hopen : leaveOpen (entry.part log) = true) :
    entry ∈ c.inHand := by
  have hsome : entry.part log ≠ [] := by
    intro hnone
    rw [hnone] at hopen
    cases hopen
  have hclaimed : entry ∈ Note.claims story := by
    by_contra hunclaimed
    exact hsome (hkept.unclaimed hunclaimed).2
  rcases hchronicle.finished_or_waiting hclaimed with ⟨result, hnote⟩ | hheld
  · cases hscenario : r.scenario entry.scenario with
    | ok scenario =>
        have hclosed := (hkept.life hscenario hnote).1.not_leaveOpen
        rw [hopen] at hclosed
        cases hclosed
    | error f => exact absurd (hkept.untouched hchronicle hscenario).1 hsome
  · exact hheld

theorem Kept.length_openPages_le (hkept : Kept (Journey.ofEntry r) story log c)
    (hchronicle : Chronicle p story c) : (openPages p log).length ≤ c.workers.length := by
  -- No worker is in the middle of two entries.
  have hsubset : openPages p log ⊆ c.inHand := fun entry hentry =>
    hkept.inHand_of_leaveOpen hchronicle (List.mem_filter.mp hentry).2
  calc
    (openPages p log).length ≤ c.inHand.length :=
          (List.subperm_of_subset (p.entries_nodup.filter _) hsubset).length_le
    _ ≤ c.workers.length := List.length_filterMap_le _ _

/-! ## The answer to the closing call -/

/-- A worker that waits for its page to be closed goes on in the same way whatever the answer. -/
theorem Kept.step_of_close (hkept : Kept (Journey.ofEntry r) story log c)
    {i : Nat} {next : Attempt Call.close.Reply → Journey}
    (hworker : c.workers[i]? = some (.waiting entry .close next)) (reaction reaction' : Reaction) :
    c.step (Journey.ofEntry r) (.answer i reaction) =
        c.step (Journey.ofEntry r) (.answer i reaction') ∧
      c.notes (Journey.ofEntry r) (.answer i reaction) =
        c.notes (Journey.ofEntry r) (.answer i reaction') := by
  have hreached := hkept.waiting hworker
  have hnext : next (reaction .close) = next (reaction' .close) := by
    cases hscenario : r.scenario entry.scenario with
    | ok scenario => exact (hreached.standing hscenario).next_of_close _ _
    | error f =>
        -- Without a scenario there is no page, and nobody waits for it to be closed.
        have hpast := hreached.past
        rw [Journey.ofEntry_of_error hscenario] at hpast
        cases hpast.of_finished.2
  simp only [Crew.step, resume, notes, hworker, hnext, and_self]

/-- What scenarios do with their pages in the course of a run, whatever its calls are answered and in
whatever order, at every moment and at its end. -/
theorem page_lifecycle (r : Registry) (p : Plan) (workers : Nat) (events : List Event) :
    let journey := Journey.ofEntry r
    let crew := (assemble p workers).run journey events
    let story := (assemble p workers).story journey events
    let log := (assemble p workers).exchanges journey events
    -- An entry with a result has a page with a whole life, and no call has begun besides.
    (∀ (entry : Plan.Entry) scenario result, r.scenario entry.scenario = .ok scenario →
      .recorded entry result ∈ story →
        Life entry.viewport (scenario.steps.map Scenario.Step.call) (entry.part log) result ∧
        entry.part (Note.calls story) = (entry.part log).map (·.call)) ∧
    -- At any moment, what has been called and answered is the beginning of such a life.
    (∀ (entry : Plan.Entry) scenario, r.scenario entry.scenario = .ok scenario → ∃ more result,
      Life entry.viewport (scenario.steps.map Scenario.Step.call) (entry.part log ++ more) result ∧
      entry.part (Note.calls story) <+: (entry.part log ++ more).map (·.call)) ∧
    -- Without a scenario there is no page.
    (∀ (entry : Plan.Entry) f, r.scenario entry.scenario = .error f →
      entry.part log = [] ∧ entry.part (Note.calls story) = []) ∧
    -- When all workers have stopped every entry that was begun has a result, after a failure too.
    (crew.isDone = true → ∀ entry : Plan.Entry, entry.part (Note.calls story) ≠ [] →
      ∃ result, .recorded entry result ∈ story) ∧
    -- Nothing depends on the answer to a closing call.
    (∀ (i : Nat) (entry : Plan.Entry) (next : Attempt Call.close.Reply → Journey),
      crew.workers[i]? = some (.waiting entry .close next) →
      ∀ (reaction reaction' : Reaction) (later : List Event),
        (assemble p workers).run journey (events ++ .answer i reaction :: later) =
            (assemble p workers).run journey (events ++ .answer i reaction' :: later) ∧
          (assemble p workers).story journey (events ++ .answer i reaction :: later) =
            (assemble p workers).story journey (events ++ .answer i reaction' :: later)) ∧
    (openPages p log).length ≤ workers := by
  intro journey crew story log
  have hchronicle : Chronicle p story crew := chronicle_run journey p workers events
  have hkept : Kept journey story log crew := kept_run journey p workers events
  refine ⟨?_, ?_, ?_, ?_, ?_, ?_⟩
  · intro entry scenario result hscenario hnote
    exact hkept.life hscenario hnote
  · intro entry scenario hscenario
    exact hkept.exists_life hchronicle hscenario
  · intro entry f hscenario
    exact hkept.untouched hchronicle hscenario
  · intro hdone entry hbegun
    have hclaimed : entry ∈ Note.claims story := by
      by_contra hunclaimed
      exact hbegun (hkept.unclaimed hunclaimed).1
    rcases hchronicle.finished_or_waiting hclaimed with hresult | hheld
    · exact hresult
    · rw [inHand_of_isDone hdone] at hheld
      cases hheld
  · intro i entry next hworker reaction reaction' later
    rcases hkept.step_of_close hworker reaction reaction' with ⟨hstep, hnotes⟩
    constructor
    · rw [run_append, run_append, run_cons, run_cons, hstep]
    · rw [story_append, story_append, Crew.story, Crew.story, hstep, hnotes]
  · have hlength := hkept.length_openPages_le hchronicle
    rwa [length_workers_run, assemble, List.length_replicate] at hlength

/-- Opens pages, and fails in all else. -/
def openingOnly : Reaction
  | .openPage _ => Except.ok ()
  | _ => .error .browserMissing

/-- The first of two steps fails, and so does the closing call. -/
theorem lifecycle_of_failing_page :
    let r : Registry := ⟨[], [⟨"a", [.navigate "/x", .navigate "/y"]⟩]⟩
    let p := Plan.product ["a"] [⟨"w", 1, 1⟩]
    let journey := Journey.ofEntry r
    let entry : Plan.Entry := ⟨0, "a", ⟨"w", 1, 1⟩⟩
    let events : List Event := [.start 0, .answer 0 openingOnly, .answer 0 openingOnly]
    let all := events ++ [.answer 0 openingOnly]
    Life ⟨"w", 1, 1⟩ [.navigate "/x", .navigate "/y"]
        (entry.part ((assemble p 1).exchanges journey all)) (.error .browserMissing) ∧
      (assemble p 1).run journey all =
        (assemble p 1).run journey (events ++ [.answer 0 fun _ => .error .noScenarios]) ∧
      (openPages p ((assemble p 1).exchanges journey events)).length ≤ 1 := by
  intro r p journey entry events all
  have hscenario : r.scenario entry.scenario =
      .ok ⟨"a", [.navigate "/x", .navigate "/y"]⟩ := rfl
  have hnote : .recorded entry (.error .browserMissing) ∈ (assemble p 1).story journey all := by
    have hstory : (assemble p 1).story journey all = [_, _, _, _,
      .recorded entry (.error .browserMissing)] := rfl
    rw [hstory]
    simp
  have hwaiting : ((assemble p 1).run journey events).workers[0]? =
      some (.waiting entry .close fun _ => .finished (.error .browserMissing)) := rfl
  have hbefore := (page_lifecycle r p 1 events).2.2.2.2
  exact ⟨((page_lifecycle r p 1 all).1 entry _ _ hscenario hnote).1,
    (hbefore.1 0 entry _ hwaiting openingOnly (fun _ => .error .noScenarios) []).1, hbefore.2⟩

end Crew
end LayoutAudit
