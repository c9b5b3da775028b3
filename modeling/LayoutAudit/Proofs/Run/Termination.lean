import LayoutAudit.Proofs.Run.Isolation

/-!
# Proofs.Run.Termination — workers that get their turns come to an end

Every turn of a worker that has not stopped takes something off the burden of its stage: the calls
that are left, and the workers that are at work.

* `Journey.length` — how many calls a journey makes;
* `Stage.burden` — the calls that are left, and something for each worker;
* `Stage.burden_turn_lt` — a turn makes it less;
* `Stage.Fair`, `Stage.exists_isDone` — if every worker gets its turns, all of them stop.
-/

namespace LayoutAudit

/-! ## Burdens -/

namespace Journey

/-- The number of calls of a journey with a browser that keeps a state. -/
def length {σ : Type} (browser : σ → (call : Call) → Attempt call.Reply × σ) :
    Journey → σ → Nat
  | finished _, _ => 0
  | await call next, s => 1 + (next (browser s call).1).length browser (browser s call).2

/-- The number of calls of an entry that is run by itself. -/
def aloneLength (pages : Pages) (journey : Plan.Entry → Journey) (entry : Plan.Entry) : Nat :=
  (journey entry).length pages.browse ⟨entry.viewport, []⟩

theorem aloneLength_eq_length (pages : Pages) {journey : Plan.Entry → Journey}
    {entry : Plan.Entry} (hfirst : (journey entry).OpensFirst) (tab : Tab) :
    (journey entry).length pages.browse tab = aloneLength pages journey entry := by
  unfold aloneLength
  cases hjourney : journey entry with
  | finished result => rfl
  | await call next =>
      rw [hjourney] at hfirst
      simp only [length]
      rw [pages.browse_of_opensPage hfirst.1 tab]

/-- The calls of entries that nobody has claimed. -/
def queueLength (pages : Pages) (journey : Plan.Entry → Journey) : List Plan.Entry → Nat
  | [] => 0
  | entry :: rest => aloneLength pages journey entry + queueLength pages journey rest

end Journey

namespace Worker

variable {pages : Pages} {journey : Plan.Entry → Journey}

/-- The calls that a worker is going to make for its entry, and one for claiming again. -/
def burden (pages : Pages) (tab : Tab) : Worker → Nat
  | idle => 2
  | waiting _ call next => 1 + (Journey.await call next).length pages.browse tab
  | stopped => 0

/-- Claiming moves calls from the queue to the worker. -/
theorem burden_claimFrom_le (hjourney : ∀ entry, (journey entry).OpensFirst) (tab : Tab)
    (queue : List Plan.Entry) (l : Ledger) :
    (claimFrom journey queue l).1.burden pages tab +
        Journey.queueLength pages journey (claimFrom journey queue l).2.queue ≤
      1 + Journey.queueLength pages journey queue := by
  induction queue generalizing l with
  | nil => simp [claimFrom, burden, Journey.queueLength]
  | cons entry rest ih =>
      by_cases hfailed : l.failure.isSome = true
      · simp [claimFrom, hfailed, burden]
      · have hlength := Journey.aloneLength_eq_length pages (hjourney entry) tab
        cases hentry : journey entry with
        | await call next =>
            rw [hentry] at hlength
            simp only [claimFrom, hfailed, hentry, burden, Journey.queueLength]
            simp [hlength]
            omega
        | finished result =>
            have hrest := ih (l.record entry result)
            simp only [claimFrom, hfailed, hentry, Journey.queueLength]
            simp
            omega

theorem burden_goOn_le (hjourney : ∀ entry, (journey entry).OpensFirst) (tab : Tab)
    (entry : Plan.Entry) (j : Journey) (l : Ledger) :
    (goOn journey entry j l).1.burden pages tab +
        Journey.queueLength pages journey (goOn journey entry j l).2.queue ≤
      1 + j.length pages.browse tab + Journey.queueLength pages journey l.queue := by
  cases j with
  | await call next => simp [goOn, burden]
  | finished result =>
      simpa [goOn, claim, Journey.length] using
        burden_claimFrom_le hjourney tab l.queue (l.record entry result)

end Worker

namespace Stage

variable {pages : Pages} {journey : Plan.Entry → Journey} {s : Stage}

/-- The burdens of workers, the first of which has a number. -/
def workload (pages : Pages) (tabs : Nat → Tab) : Nat → List Worker → Nat
  | _, [] => 0
  | i, worker :: rest => worker.burden pages (tabs i) + workload pages tabs (i + 1) rest

def burden (pages : Pages) (journey : Plan.Entry → Journey) (s : Stage) : Nat :=
  workload pages s.tabs 0 s.crew.workers + Journey.queueLength pages journey s.crew.ledger.queue

theorem workload_congr (pages : Pages) {tabs tabs' : Nat → Tab} {k : Nat} (workers : List Worker)
    (htabs : ∀ j, k ≤ j → tabs' j = tabs j) :
    workload pages tabs' k workers = workload pages tabs k workers := by
  induction workers generalizing k with
  | nil => rfl
  | cons worker rest ih =>
      have hrest : ∀ j, k + 1 ≤ j → tabs' j = tabs j := fun j hbound => htabs j (by omega)
      simp only [workload]
      rw [htabs k (by omega), ih hrest]

/-- A move changes the workload by what it changes for the worker that moves. -/
theorem workload_set (pages : Pages) {tabs tabs' : Nat → Tab} {i k : Nat}
    {workers : List Worker} {worker : Worker} (after : Worker) (hworker : workers[i]? = some worker)
    (htabs : ∀ j, j ≠ k + i → tabs' j = tabs j) :
    workload pages tabs' k (workers.set i after) + worker.burden pages (tabs (k + i)) =
      workload pages tabs k workers + after.burden pages (tabs' (k + i)) := by
  induction workers generalizing i k with
  | nil => simp at hworker
  | cons first rest ih =>
      cases i with
      | zero =>
          have hfirst : first = worker := by simpa using hworker
          have hrest := workload_congr pages rest
            fun j (hbound : k + 1 ≤ j) => htabs j (by omega)
          simp only [List.set_cons_zero, workload, Nat.add_zero]
          rw [hrest, hfirst]
          omega
      | succ i =>
          have hnext : rest[i]? = some worker := by simpa using hworker
          -- The first worker is not the one that moves; the rest are numbered from the next.
          have hshift : k + (i + 1) = k + 1 + i := by omega
          rw [hshift] at htabs ⊢
          have hrest := ih hnext htabs
          have hhead : tabs' k = tabs k := htabs k (by omega)
          simp only [List.set_cons_succ, workload]
          rw [hhead]
          omega

/-! ## A turn makes the burden less -/

theorem burden_update_lt {i : Nat} {worker : Worker} {after : Worker × Ledger}
    {tabs : Nat → Tab} (hworker : s.crew.workers[i]? = some worker)
    (htabs : ∀ j, j ≠ i → tabs j = s.tabs j)
    (hless : after.1.burden pages (tabs i) + Journey.queueLength pages journey after.2.queue <
      worker.burden pages (s.tabs i) +
        Journey.queueLength pages journey s.crew.ledger.queue) :
    burden pages journey ⟨s.crew.update i after, tabs⟩ < s.burden pages journey := by
  have hstart : ∀ j, j ≠ 0 + i → tabs j = s.tabs j := by simpa using htabs
  have hload := workload_set pages after.1 hworker hstart
  simp only [Nat.zero_add] at hload
  simp only [burden, Crew.update]
  omega

theorem burden_turn_lt (hjourney : ∀ entry, (journey entry).OpensFirst) {i : Nat}
    {worker : Worker} (hworker : s.crew.workers[i]? = some worker)
    (hactive : worker ≠ .stopped) :
    (s.turn pages journey i).burden pages journey < s.burden pages journey := by
  have hturn := turn_cases pages journey s i
  generalize s.crew.notes journey (s.event pages i) = notes, s.turn pages journey i = s' at hturn ⊢
  cases hturn with
  | begun hidle =>
      have hclaim : _ ≤ 1 + Journey.queueLength pages journey s.crew.ledger.queue :=
        Worker.burden_claimFrom_le hjourney (s.tabs i) _ s.crew.ledger
      refine burden_update_lt hidle (fun _ _ => rfl) (Nat.lt_of_le_of_lt hclaim ?_)
      simp only [Worker.burden]
      omega
  | @answered entry call next hwaiting =>
      refine burden_update_lt hwaiting (fun j hother => by simp [hother]) ?_
      refine Nat.lt_of_le_of_lt (Worker.burden_goOn_le hjourney _ _ _ _) ?_
      simp only [Worker.burden, Journey.length]
      simp
  | missed hmissed =>
      rcases hmissed with hnone | hstopped
      · simp [hnone] at hworker
      · rw [hstopped] at hworker
        exact absurd (Option.some.inj hworker).symm hactive

/-! ## Fair schedules -/

/-- Every worker gets its turn again and again. -/
def Fair (workers : Nat) (schedule : Nat → Nat) : Prop :=
  ∀ i, i < workers → ∀ n, ∃ m, n ≤ m ∧ schedule m = i

theorem Fair.shift {workers : Nat} {schedule : Nat → Nat} (hfair : Fair workers schedule)
    (n : Nat) : Fair workers fun m => schedule (n + m) := by
  intro i hbound k
  rcases hfair i hbound (n + k) with ⟨m, hlate, hturn⟩
  have hsplit : n + (m - n) = m := by omega
  exact ⟨m - n, by omega, by simp [hsplit, hturn]⟩

/-- The stage after some turns of a schedule that does not end. -/
def reach (pages : Pages) (journey : Plan.Entry → Journey) (s : Stage) (schedule : Nat → Nat)
    (n : Nat) : Stage :=
  s.play pages journey ((List.range n).map schedule)

theorem reach_add (schedule : Nat → Nat) (n m : Nat) :
    s.reach pages journey schedule (n + m) =
      (s.reach pages journey schedule n).reach pages journey (fun k => schedule (n + k)) m := by
  simp [reach, play, List.range_add, Function.comp_def]

theorem turn_of_stopped {i : Nat}
    (hworker : s.crew.workers[i]? = none ∨ s.crew.workers[i]? = some .stopped) :
    s.turn pages journey i = s := by
  have hturn := turn_cases pages journey s i
  generalize s.crew.notes journey (s.event pages i) = notes, s.turn pages journey i = s' at hturn ⊢
  cases hturn with
  | begun hidle => simp [hidle] at hworker
  | answered hwaiting => simp [hwaiting] at hworker
  | missed => rfl

/-- If a worker that has not stopped gets its turn, the burden has become less by then. -/
theorem exists_burden_lt (hjourney : ∀ entry, (journey entry).OpensFirst) {i : Nat}
    {worker : Worker} (hworker : s.crew.workers[i]? = some worker)
    (hactive : worker ≠ .stopped) (schedule : Nat → Nat) {m : Nat} (hturn : schedule m = i) :
    ∃ n, (s.reach pages journey schedule n).burden pages journey < s.burden pages journey := by
  induction m generalizing schedule with
  | zero =>
      refine ⟨1, ?_⟩
      simpa [reach, hturn] using burden_turn_lt hjourney hworker hactive
  | succ m ih =>
      have hfirst : s.reach pages journey schedule 1 = s.turn pages journey (schedule 0) := by
        simp [reach]
      rcases hother : s.crew.workers[schedule 0]? with _ | other
      case none =>
        rcases ih (fun k => schedule (1 + k)) (by simpa [Nat.add_comm] using hturn) with ⟨n, hless⟩
        refine ⟨1 + n, ?_⟩
        rw [reach_add, hfirst, turn_of_stopped (.inl hother)]
        exact hless
      case some =>
        -- A turn of a worker that has stopped changes nothing; any other makes the burden less.
        by_cases hstopped : other = .stopped
        · rcases ih (fun k => schedule (1 + k)) (by simpa [Nat.add_comm] using hturn) with
            ⟨n, hless⟩
          refine ⟨1 + n, ?_⟩
          rw [reach_add, hfirst, turn_of_stopped (.inr (hstopped ▸ hother))]
          exact hless
        · exact ⟨1, hfirst ▸ burden_turn_lt hjourney hother hstopped⟩

theorem length_workers_reach (s : Stage) (schedule : Nat → Nat) (n : Nat) :
    (s.reach pages journey schedule n).crew.workers.length = s.crew.workers.length := by
  rw [reach, crew_play, Crew.length_workers_run]

/-- If every worker gets its turn again and again, all of them stop. -/
theorem exists_isDone (hjourney : ∀ entry, (journey entry).OpensFirst) (s : Stage)
    {schedule : Nat → Nat} (hfair : Fair s.crew.workers.length schedule) :
    ∃ n, (s.reach pages journey schedule n).crew.isDone = true := by
  induction hburden : s.burden pages journey using Nat.strongRecOn generalizing s schedule with
  | ind burden ih =>
      by_cases hdone : s.crew.isDone = true
      · exact ⟨0, hdone⟩
      · -- Some worker is at work, and it gets its turn.
        have hactive : ∃ worker ∈ s.crew.workers, worker ≠ .stopped := by
          simpa [Crew.isDone_iff] using hdone
        rcases hactive with ⟨worker, hmember, hactive⟩
        rcases List.getElem?_of_mem hmember with ⟨i, hworker⟩
        rcases hfair i (List.getElem?_eq_some_iff.mp hworker).1 0 with ⟨m, -, hturn⟩
        rcases exists_burden_lt hjourney hworker hactive schedule hturn with ⟨n, hless⟩
        have hrest : Fair (s.reach pages journey schedule n).crew.workers.length
            fun k => schedule (n + k) := by
          rw [length_workers_reach]
          exact hfair.shift n
        rcases ih _ (hburden ▸ hless) _ hrest rfl with ⟨k, hend⟩
        exact ⟨n + k, by rwa [reach_add]⟩

end Stage
end LayoutAudit
