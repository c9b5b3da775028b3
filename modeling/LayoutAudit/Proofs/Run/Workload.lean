import Mathlib.Algebra.GroupWithZero.Nat
import LayoutAudit.Proofs.Run.Lifecycle
import LayoutAudit.Run.Clock

/-!
# Proofs.Run.Workload — the calls that are ahead

However calls are answered, a scenario makes no more of them than it has steps, and two for its page.
A worker that begins takes over calls that nobody had claimed, and one that gets an answer has a call
less ahead.

* `Journey.Within` — journeys with so many calls at most;
* `Registry.calls`, `Journey.ofEntry_within` — the calls of an entry;
* `Run.callBound_eq` — the calls of a run;
* `Crew.Ahead` — the calls that are ahead of a crew;
* `Crew.Ahead.start`, `Crew.Ahead.answer` — what an event makes of them.
-/

namespace LayoutAudit

/-! ## Journeys -/

namespace Journey

/-- Whatever is answered, no more calls than that are made. -/
inductive Within : Nat → Journey → Prop where
  | finished (n : Nat) (result : Attempt (List Report)) : Within n (finished result)
  | await {n : Nat} {call : Call} {next : Attempt call.Reply → Journey}
      (h : ∀ answer, Within n (next answer)) : Within (n + 1) (await call next)

variable {m n : Nat}

theorem Within.mono {j : Journey} (h : j.Within m) (hle : m ≤ n) : j.Within n := by
  induction h generalizing n with
  | finished m result => exact .finished n result
  | @await m call next _ ih =>
      rcases Nat.exists_eq_add_of_lt (Nat.lt_of_succ_le hle) with ⟨more, rfl⟩
      exact .await fun answer => ih answer (Nat.le_add_right m more)

theorem Within.exists_of_await {call : Call} {next : Attempt call.Reply → Journey}
    (h : (Journey.await call next).Within n) : ∃ m, n = m + 1 ∧ ∀ answer, (next answer).Within m := by
  cases h with
  | await h => exact ⟨_, rfl, h⟩

theorem closing_within (result : Attempt (List Report)) : (closing result).Within 1 :=
  .await fun _ => .finished 0 result

theorem perform_within (scenario : String) (viewport : Viewport) (steps : List Scenario.Step)
    (reports : List Report) :
    (perform scenario viewport (.ofSteps steps) reports).Within (steps.length + 1) := by
  induction steps generalizing reports with
  | nil => exact closing_within _
  | cons step rest ih =>
      have hfailed (f : Failure) (told : List Report) :
          (perform scenario viewport (.done (.error f)) told).Within (rest.length + 1) :=
        (closing_within _).mono (Nat.le_add_left 1 rest.length)
      cases step with
      | navigate path =>
          apply Within.await
          intro answer
          cases answer with
          | ok page => exact ih reports
          | error f => exact hfailed f reports
      | snapshot name spec options =>
          rw [Routine.ofSteps, perform]
          apply Within.await
          intro answer
          cases answer with
          | ok m => exact ih _
          | error f => exact hfailed f reports

theorem visit_within (scenario : String) (viewport : Viewport) (steps : List Scenario.Step) :
    (visit scenario viewport (.ofSteps steps)).Within (steps.length + 2) := by
  apply Within.await
  intro answer
  cases answer with
  | ok page => exact perform_within scenario viewport steps []
  | error f => exact .finished _ _

end Journey

/-- The calls of an entry: one for each step, and two for its page. -/
def Registry.calls (r : Registry) (entry : Plan.Entry) : Nat :=
  match r.scenario entry.scenario with
  | .ok scenario => scenario.steps.length + 2
  | .error _ => 0

theorem Journey.ofEntry_within (r : Registry) (entry : Plan.Entry) :
    (ofEntry r entry).Within (r.calls entry) := by
  unfold Registry.calls
  cases hscenario : r.scenario entry.scenario with
  | ok scenario =>
      rw [ofEntry_of_ok hscenario]
      exact visit_within _ _ _
  | error f =>
      rw [ofEntry_of_error hscenario]
      exact .finished 0 _

theorem Run.callBound_eq (run : Run) :
    run.callBound = (run.plan.entries.map run.registry.calls).sum := by
  calc
    run.callBound
        = run.plan.entries.foldl (fun calls entry => calls + run.registry.calls entry) 0 := by
          apply List.foldl_ext
          intro calls entry _
          cases hscenario : run.registry.scenario entry.scenario with
          | ok scenario => simp only [Registry.calls, hscenario, Nat.add_assoc]
          | error f => simp only [Registry.calls, hscenario, Nat.add_zero]
    _ = (run.plan.entries.map run.registry.calls).sum := by
          rw [List.sum_eq_foldl, List.foldl_map]

/-! ## Crews -/

section

variable {journey : Plan.Entry → Journey} {cost : Plan.Entry → Nat} {n : Nat}

/-- The calls of the entries that nobody has claimed. -/
def Ledger.unclaimed (cost : Plan.Entry → Nat) (l : Ledger) : Nat := (l.queue.map cost).sum

namespace Worker

/-- A worker that makes no more calls for its entry than that. -/
def Within : Worker → Nat → Prop
  | waiting _ call next, share => (Journey.await call next).Within share
  | _, _ => True

theorem claimFrom_within (hjourney : ∀ entry, (journey entry).Within (cost entry))
    (queue : List Plan.Entry) (l : Ledger) :
    ∃ share, (claimFrom journey queue l).1.Within share ∧
      share + (claimFrom journey queue l).2.unclaimed cost ≤ (queue.map cost).sum := by
  induction queue generalizing l with
  | nil => exact ⟨0, trivial, Nat.le_refl 0⟩
  | cons entry rest ih =>
      unfold claimFrom
      split
      · exact ⟨0, trivial, by rw [Nat.zero_add]; exact Nat.le_refl _⟩
      · split
        · -- What the entry costs is no longer unclaimed, but the worker's.
          rename_i call next hentry
          have hwithin := hjourney entry
          rw [hentry] at hwithin
          exact ⟨cost entry, hwithin, Nat.le_refl ((entry :: rest).map cost).sum⟩
        · rename_i result hentry
          rcases ih (l.record entry result) with ⟨share, hwithin, hle⟩
          exact ⟨share, hwithin, Nat.le_trans hle (Nat.le_add_left _ (cost entry))⟩

theorem goOn_within (hjourney : ∀ entry, (journey entry).Within (cost entry)) (entry : Plan.Entry)
    {j : Journey} (hj : j.Within n) (l : Ledger) :
    ∃ share, (goOn journey entry j l).1.Within share ∧
      share + (goOn journey entry j l).2.unclaimed cost ≤ n + l.unclaimed cost := by
  cases j with
  | await call next => exact ⟨n, hj, Nat.le_refl _⟩
  | finished result =>
      rcases claimFrom_within hjourney l.queue (l.record entry result) with ⟨share, hwithin, hle⟩
      have hgoOn : goOn journey entry (.finished result) l =
          claimFrom journey l.queue (l.record entry result) := by
        rw [goOn, claim, Ledger.queue_record]
      rw [hgoOn]
      exact ⟨share, hwithin, Nat.le_trans hle (Nat.le_add_left _ n)⟩

theorem claimFrom_not_idle (queue : List Plan.Entry) (l : Ledger) :
    (claimFrom journey queue l).1 ≠ .idle := by
  induction queue generalizing l with
  | nil => simp [claimFrom]
  | cons entry rest ih =>
      unfold claimFrom
      split
      · simp
      · split
        · simp
        · exact ih _

theorem goOn_not_idle (entry : Plan.Entry) (j : Journey) (l : Ledger) :
    (goOn journey entry j l).1 ≠ .idle := by
  cases j with
  | await call next => simp [goOn]
  | finished result => exact claimFrom_not_idle _ _

end Worker

/-- Shares of a total, of which one changes. -/
theorem exists_shares_set {workers : List Worker} {shares : List Nat}
    (h : List.Forall₂ Worker.Within workers shares) {i : Nat} {worker : Worker}
    (hworker : workers[i]? = some worker) :
    ∃ share, worker.Within share ∧ share ≤ shares.sum ∧
      ∀ (after : Worker) (other : Nat), after.Within other →
        ∃ rest, List.Forall₂ Worker.Within (workers.set i after) rest ∧
          rest.sum + share = shares.sum + other := by
  induction h generalizing i with
  | nil => cases hworker
  | @cons first share workers shares hfirst hrest ih =>
      cases i with
      | zero =>
          cases hworker
          refine ⟨share, hfirst, by simp, ?_⟩
          intro after other hafter
          refine ⟨other :: shares, .cons hafter hrest, ?_⟩
          simp only [List.sum_cons]
          omega
      | succ i =>
          rcases ih (i := i) (by simpa using hworker) with ⟨held, hheld, hle, hset⟩
          refine ⟨held, hheld, by rw [List.sum_cons]; omega, ?_⟩
          intro after other hafter
          rcases hset after other hafter with ⟨rest, hall, hsum⟩
          refine ⟨share :: rest, .cons hfirst hall, ?_⟩
          simp only [List.sum_cons]
          omega

namespace Crew

variable {c : Crew} {i : Nat}

theorem step_start (hworker : c.workers[i]? = some .idle) : c.step journey (.start i) =
    c.update i (Worker.claimFrom journey c.ledger.queue c.ledger) := by
  simp only [step, start, hworker]
  rfl

theorem step_answer {entry : Plan.Entry} {call : Call} {next : Attempt call.Reply → Journey}
    (hworker : c.workers[i]? = some (.waiting entry call next)) (reaction : Reaction) :
    c.step journey (.answer i reaction) =
      c.update i (Worker.goOn journey entry (next (reaction call)) c.ledger) := by
  simp only [step, resume, hworker]

/-- No more calls than that are ahead of a crew. -/
def Ahead (cost : Plan.Entry → Nat) (n : Nat) (c : Crew) : Prop :=
  ∃ shares, List.Forall₂ Worker.Within c.workers shares ∧
    shares.sum + c.ledger.unclaimed cost ≤ n

theorem ahead_assemble (cost : Plan.Entry → Nat) (p : Plan) (workers : Nat) :
    (assemble p workers).Ahead cost (p.entries.map cost).sum := by
  refine ⟨List.replicate workers 0, ?_, ?_⟩
  · rw [assemble, List.forall₂_iff_get]
    refine ⟨by simp, ?_⟩
    intro i hi hi'
    simp [Worker.Within]
  · simp [assemble, Ledger.ofPlan, Ledger.unclaimed]

/-- A worker that begins only takes over what nobody had claimed. -/
theorem Ahead.start (hjourney : ∀ entry, (journey entry).Within (cost entry))
    (h : c.Ahead cost n) (hworker : c.workers[i]? = some .idle) :
    (c.step journey (.start i)).Ahead cost n := by
  rcases h with ⟨shares, hall, hsum⟩
  rcases exists_shares_set hall hworker with ⟨share, -, -, hset⟩
  rcases Worker.claimFrom_within hjourney c.ledger.queue c.ledger with ⟨other, hwithin, hle⟩
  rcases hset _ other hwithin with ⟨rest, hrest, hrestSum⟩
  rw [step_start hworker]
  refine ⟨rest, hrest, ?_⟩
  have hunclaimed : c.ledger.unclaimed cost = (c.ledger.queue.map cost).sum := rfl
  simp only [update]
  omega

/-- A worker that gets an answer has one call less ahead. -/
theorem Ahead.answer (hjourney : ∀ entry, (journey entry).Within (cost entry))
    (h : c.Ahead cost n) {entry : Plan.Entry} {call : Call} {next : Attempt call.Reply → Journey}
    (hworker : c.workers[i]? = some (.waiting entry call next)) (reaction : Reaction) :
    ∃ m, n = m + 1 ∧ (c.step journey (.answer i reaction)).Ahead cost m := by
  rcases h with ⟨shares, hall, hsum⟩
  rcases exists_shares_set hall hworker with ⟨share, hshare, hle, hset⟩
  rcases Journey.Within.exists_of_await hshare with ⟨left, rfl, hnext⟩
  rcases Worker.goOn_within hjourney entry (hnext (reaction call)) c.ledger with
    ⟨other, hwithin, hgoOn⟩
  rcases hset _ other hwithin with ⟨rest, hrest, hrestSum⟩
  refine ⟨n - 1, by omega, ?_⟩
  rw [step_answer hworker]
  refine ⟨rest, hrest, ?_⟩
  simp only [update]
  omega

theorem Ahead.mono {m : Nat} (h : c.Ahead cost n) (hle : n ≤ m) : c.Ahead cost m := by
  rcases h with ⟨shares, hall, hsum⟩
  exact ⟨shares, hall, Nat.le_trans hsum hle⟩

theorem worker_update {worker : Worker} (hworker : c.workers[i]? = some worker)
    (after : Worker × Ledger) : (c.update i after).workers[i]? = some after.1 := by
  simp [update, (List.getElem?_eq_some_iff.1 hworker).1]

theorem Ahead.pos_of_waiting (h : c.Ahead cost n) {entry : Plan.Entry} {call : Call}
    {next : Attempt call.Reply → Journey}
    (hworker : c.workers[i]? = some (.waiting entry call next)) : 0 < n := by
  rcases h with ⟨shares, hall, hsum⟩
  rcases exists_shares_set hall hworker with ⟨share, hshare, hle, -⟩
  rcases Journey.Within.exists_of_await hshare with ⟨left, rfl, -⟩
  omega

end Crew

end

end LayoutAudit
