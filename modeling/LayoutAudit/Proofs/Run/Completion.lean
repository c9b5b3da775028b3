import LayoutAudit.Proofs.Run.Reports
import LayoutAudit.Proofs.Run.Timing
import LayoutAudit.Proofs.Run.Workload
import LayoutAudit.Proofs.Session.Faults

/-!
# Proofs.Run.Completion — a clocked run comes to its end

Whenever the clock goes on, a worker begins or gets an answer, so that the calls which are ahead and
the workers that have yet to begin become fewer.  There is time enough for all of them to stop, and
what the run gives then is complete.

* `Clock.alarm_of_next?`, `Clock.time?_of_next?_none` — who goes on next;
* `Clock.State.Aligned` — alarms that fit their workers;
* `Clock.isDone_advance`, `Run.isDone_clocked` — all workers have stopped in the end;
* `Run.Surroundings.CarriesThrough` — surroundings in which runs come to their end;
* `Run.exists_complete` — an outcome in such surroundings is complete.
-/

namespace LayoutAudit

/-! ## Clocks -/

namespace Clock

/-! ### The worker that goes on next -/

/-- Either what was soonest before still is, or the time of the alarm. -/
theorem sooner_cases (best : Option (Nat × Nat)) (alarm : Alarm) (i : Nat) :
    (sooner best (alarm, i) = best ∧ (best.isSome = true ∨ alarm.time? = none)) ∨
      ∃ time, alarm.time? = some time ∧ sooner best (alarm, i) = some (time, i) := by
  cases htime : alarm.time? with
  | none => simp [sooner, htime]
  | some time =>
      rcases best with _ | ⟨least, j⟩
      · simp [sooner, htime]
      · by_cases hless : time < least
        · exact .inr ⟨time, rfl, by simp [sooner, htime, hless]⟩
        · exact .inl ⟨by simp [sooner, htime, hless], .inl rfl⟩

theorem alarm_of_next? {alarms : List Alarm} {time i : Nat} (h : next? alarms = some (time, i)) :
    ∃ alarm, alarms[i]? = some alarm ∧ alarm.time? = some time := by
  -- What is soonest so far is the time of some alarm.
  have hsound : ∀ best, next? alarms = some best →
      ∃ alarm, alarms[best.2]? = some alarm ∧ alarm.time? = some best.1 := by
    unfold next?
    refine List.foldlRecOn (motive := fun found => ∀ best, found = some best →
      ∃ alarm, alarms[best.2]? = some alarm ∧ alarm.time? = some best.1) _ sooner ?_ ?_
    · intro best hbest
      cases hbest
    · rintro found hfound ⟨alarm, j⟩ hmem best hbest
      rcases sooner_cases found alarm j with ⟨hsame, -⟩ | ⟨early, htime, hsooner⟩
      · exact hfound best (hsame ▸ hbest)
      · rw [hsooner] at hbest
        cases hbest
        exact ⟨alarm, List.mem_zipIdx_iff_getElem?.1 hmem, htime⟩
  exact hsound (time, i) h

theorem sooner_isSome (best : Option (Nat × Nat)) (alarm : Alarm) (i : Nat) :
    (sooner best (alarm, i)).isSome = (best.isSome || alarm.time?.isSome) := by
  rcases sooner_cases best alarm i with ⟨hsame, hbest | htime⟩ | ⟨time, htime, hsooner⟩
  · rw [hsame, hbest, Bool.true_or]
  · rw [hsame, htime, Option.isSome_none, Bool.or_false]
  · rw [hsooner, htime, Option.isSome_some, Option.isSome_some, Bool.or_true]

theorem foldl_sooner_isSome (pairs : List (Alarm × Nat)) (best : Option (Nat × Nat)) :
    (pairs.foldl sooner best).isSome = (best.isSome || pairs.any (·.1.time?.isSome)) := by
  induction pairs generalizing best with
  | nil => simp
  | cons pair rest ih => rw [List.foldl_cons, ih, sooner_isSome, List.any_cons, Bool.or_assoc]

theorem time?_of_next?_none {alarms : List Alarm} (h : next? alarms = none) {i : Nat}
    {alarm : Alarm} (halarm : alarms[i]? = some alarm) : alarm.time? = none := by
  have hall := foldl_sooner_isSome alarms.zipIdx none
  change (next? alarms).isSome = _ at hall
  rw [h] at hall
  have hnone := List.any_eq_false.1 hall.symm (alarm, i) (List.mem_zipIdx_iff_getElem?.2 halarm)
  simpa using hnone

/-! ### Alarms and workers -/

def Alarm.Fits : Alarm → Worker → Prop
  | start, .idle => True
  | .at _ _, .waiting _ _ _ => True
  | never, .stopped => True
  | _, _ => False

def Alarm.isStart : Alarm → Bool
  | start => true
  | _ => false

variable {ω : Type} {journey : Plan.Entry → Journey}
  {cost : Plan.Entry → Nat} {n : Nat} {s : State ω}

/-- Alarms fit their workers, but perhaps for the worker that is just going on. -/
structure State.Aligned (busy : Option Nat) (s : State ω) : Prop where
  length : s.alarms.length = s.crew.workers.length
  fits : ∀ i alarm worker, some i ≠ busy → s.alarms[i]? = some alarm →
    s.crew.workers[i]? = some worker → alarm.Fits worker

theorem State.Aligned.update {busy : Option Nat} (h : s.Aligned busy) {i : Nat}
    (hbusy : ∀ j, j ≠ i → some j ≠ busy) (after : Worker × Ledger) (time : Nat) (w : ω) :
    State.Aligned (some i) ⟨s.crew.update i after, time, s.alarms, w⟩ := by
  refine ⟨by simpa [Crew.update] using h.length, ?_⟩
  intro j alarm worker hother halarm hworker
  have hne : j ≠ i := fun hsame => hother (congrArg some hsame)
  rw [Crew.update, List.getElem?_set_ne hne.symm] at hworker
  exact h.fits j alarm worker (hbusy j hne) halarm hworker

theorem State.Aligned.set {i : Nat} (h : s.Aligned (some i)) {alarm : Alarm} {worker : Worker}
    (hworker : s.crew.workers[i]? = some worker) (hfits : alarm.Fits worker) (time : Nat) (w : ω) :
    State.Aligned none ⟨s.crew, time, s.alarms.set i alarm, w⟩ := by
  refine ⟨by simpa using h.length, ?_⟩
  intro j other worker' _ hother hworker'
  by_cases hsame : j = i
  · subst hsame
    rw [hworker] at hworker'
    rw [List.getElem?_set_self'] at hother
    simp only [Option.map_eq_map, Option.map_eq_some_iff] at hother
    rcases hother with ⟨-, -, rfl⟩
    exact Option.some.inj hworker' ▸ hfits
  · rw [List.getElem?_set_ne (Ne.symm hsame)] at hother
    exact h.fits j other worker' (fun hbusy => hsame (Option.some.inj hbusy)) hother hworker'

/-! ### A worker goes on -/

/-- A worker that has begun goes on until it waits or has stopped, and the other alarms stay. -/
theorem proceed_aligned (world : World ω)
    (hjourney : ∀ entry, (journey entry).Within (cost entry)) {i fuel : Nat}
    (haligned : s.Aligned (some i)) (hahead : s.crew.Ahead cost n) (hfuel : n < fuel)
    (hbegun : ∃ worker, s.crew.workers[i]? = some worker ∧ worker ≠ .idle) :
    ∃ alarm : Alarm, alarm.isStart = false ∧
      (proceed world journey i fuel s).alarms = s.alarms.set i alarm ∧
      (proceed world journey i fuel s).Aligned none ∧
      (proceed world journey i fuel s).crew.Ahead cost n := by
  induction fuel generalizing n s with
  | zero => exact absurd hfuel (Nat.not_lt_zero n)
  | succ fuel ih =>
      rcases hbegun with ⟨worker, hworker, hnotIdle⟩
      cases worker with
      | idle => exact absurd rfl hnotIdle
      | waiting entry call next =>
          simp only [proceed, hworker]
          generalize world s.clock i entry call s.world = answered
          by_cases hdelay : answered.1.delay = 0
          · -- The answer is there at once, and there is one call less ahead.
            rw [if_pos hdelay, Crew.step_answer hworker]
            rcases hahead.answer hjourney hworker answered.1.reaction with ⟨m, rfl, hless⟩
            rw [Crew.step_answer hworker] at hless
            have hother : ∀ j, j ≠ i → some j ≠ some i := fun j hne hsame =>
              hne (Option.some.inj hsame)
            rcases ih (haligned.update hother _ s.clock answered.2) hless (by omega)
              ⟨_, Crew.worker_update hworker _, Worker.goOn_not_idle entry _ _⟩ with
              ⟨alarm, hstart, halarms, haligned', hahead'⟩
            exact ⟨alarm, hstart, halarms, haligned', hahead'.mono (Nat.le_succ m)⟩
          · rw [if_neg hdelay]
            have hfits : (Alarm.at (s.clock + answered.1.delay) answered.1).Fits
                (.waiting entry call next) := trivial
            exact ⟨_, rfl, rfl, haligned.set hworker hfits _ _, hahead⟩
      | stopped =>
          simp only [proceed, hworker]
          have hfits : Alarm.never.Fits .stopped := trivial
          exact ⟨.never, rfl, rfl, haligned.set hworker hfits _ _, hahead⟩

theorem countP_set {alarms : List Alarm} {i : Nat} {old alarm : Alarm}
    (hold : alarms[i]? = some old) (halarm : alarm.isStart = false) :
    (alarms.set i alarm).countP Alarm.isStart + (if old.isStart then 1 else 0) =
      alarms.countP Alarm.isStart := by
  rcases List.getElem?_eq_some_iff.1 hold with ⟨hbound, rfl⟩
  rw [List.countP_set hbound, halarm]
  by_cases hstart : (alarms[i]).isStart = true
  · have hsome : 0 < alarms.countP Alarm.isStart :=
      List.countP_pos_iff.2 ⟨alarms[i], List.getElem_mem hbound, hstart⟩
    rw [if_pos hstart]
    simp
    omega
  · rw [if_neg hstart]
    simp

/-! ### All workers stop -/

theorem exists_alarm (haligned : s.Aligned none) {i : Nat} {worker : Worker}
    (hworker : s.crew.workers[i]? = some worker) :
    ∃ alarm, s.alarms[i]? = some alarm ∧ alarm.Fits worker := by
  have hbound := (List.getElem?_eq_some_iff.1 hworker).1
  rw [← haligned.length] at hbound
  have halarm : s.alarms[i]? = some s.alarms[i] := List.getElem?_eq_getElem hbound
  exact ⟨s.alarms[i], halarm, haligned.fits i _ worker (by simp) halarm hworker⟩

theorem isDone_of_stopped {c : Crew}
    (h : ∀ (i : Nat) (worker : Worker), c.workers[i]? = some worker → worker = .stopped) :
    c.isDone = true := by
  rw [Crew.isDone_iff]
  intro worker hmem
  rcases List.mem_iff_getElem?.1 hmem with ⟨i, hworker⟩
  exact h i worker hworker

/-- Where no calls are ahead and nobody has yet to begin, all have stopped. -/
theorem isDone_of_nothing_ahead (haligned : s.Aligned none) (hahead : s.crew.Ahead cost 0)
    (hstart : s.alarms.countP Alarm.isStart = 0) : s.crew.isDone = true := by
  apply isDone_of_stopped
  intro i worker hworker
  rcases exists_alarm haligned hworker with ⟨alarm, halarm, hfits⟩
  cases worker with
  | idle =>
      have hidle : alarm.isStart = true := by
        cases alarm with
        | start => rfl
        | «at» time response => cases hfits
        | never => cases hfits
      exact absurd hidle (List.countP_eq_zero.1 hstart alarm (List.mem_of_getElem? halarm))
  | waiting entry call next => exact absurd (hahead.pos_of_waiting hworker) (Nat.lt_irrefl 0)
  | stopped => rfl

/-- Where no alarm has a time, all have stopped. -/
theorem isDone_of_next?_none (haligned : s.Aligned none) (hnext : next? s.alarms = none) :
    s.crew.isDone = true := by
  apply isDone_of_stopped
  intro i worker hworker
  rcases exists_alarm haligned hworker with ⟨alarm, halarm, hfits⟩
  have htime := time?_of_next?_none hnext halarm
  cases alarm with
  | start => cases htime
  | «at» time response => cases htime
  | never =>
      cases worker with
      | idle => cases hfits
      | waiting entry call next => cases hfits
      | stopped => rfl

/-- There is time enough for all workers to stop. -/
theorem isDone_advance (world : World ω)
    (hjourney : ∀ entry, (journey entry).Within (cost entry)) {calls fuel : Nat}
    (haligned : s.Aligned none) (hahead : s.crew.Ahead cost n) (hcalls : n < calls)
    (hfuel : n + s.alarms.countP Alarm.isStart ≤ fuel) :
    (advance world journey calls fuel s).crew.isDone = true := by
  induction fuel generalizing n s with
  | zero =>
      rcases Nat.add_eq_zero_iff.1 (Nat.le_zero.1 hfuel) with ⟨rfl, hstart⟩
      exact isDone_of_nothing_ahead haligned hahead hstart
  | succ fuel ih =>
      unfold advance
      cases hnext : next? s.alarms with
      | none => exact isDone_of_next?_none haligned hnext
      | some found =>
          rcases found with ⟨time, i⟩
          rcases alarm_of_next? hnext with ⟨alarm, halarm, htime⟩
          have hbound := (List.getElem?_eq_some_iff.1 halarm).1
          rw [haligned.length] at hbound
          have hworker : s.crew.workers[i]? = some s.crew.workers[i] :=
            List.getElem?_eq_getElem hbound
          have hfits := haligned.fits i alarm _ (by simp) halarm hworker
          generalize s.crew.workers[i] = worker at hworker hfits
          -- The event is the worker's beginning or its answer, and then the worker goes on.
          have hgoOn {m : Nat} {after : Worker × Ledger} (hnotIdle : after.1 ≠ .idle)
              (hless : (s.crew.update i after).Ahead cost m) (hcalls : m < calls)
              (hfuel : m + s.alarms.countP Alarm.isStart ≤
                fuel + if alarm.isStart then 1 else 0) :
              (advance world journey calls fuel (proceed world journey i calls
                ⟨s.crew.update i after, time, s.alarms, s.world⟩)).crew.isDone = true := by
            rcases proceed_aligned world hjourney
              (haligned.update (fun _ _ => by simp) after time s.world) hless hcalls
              ⟨_, Crew.worker_update hworker after, hnotIdle⟩ with
              ⟨later, hlater, halarms, haligned', hahead'⟩
            apply ih haligned' hahead' hcalls
            have hcount := countP_set halarm hlater
            rw [halarms]
            change m + (s.alarms.set i later).countP Alarm.isStart ≤ fuel
            omega
          cases alarm with
          | start =>
              cases worker with
              | idle =>
                  simp only [halarm]
                  have hbegun := hahead.start hjourney hworker
                  rw [Crew.step_start hworker] at hbegun ⊢
                  exact hgoOn (Worker.claimFrom_not_idle _ _) hbegun hcalls
                    (by simpa [Alarm.isStart] using hfuel)
              | waiting entry call next => cases hfits
              | stopped => cases hfits
          | «at» due response =>
              cases worker with
              | idle => cases hfits
              | waiting entry call next =>
                  simp only [halarm]
                  rcases hahead.answer hjourney hworker response.reaction with ⟨m, rfl, hless⟩
                  rw [Crew.step_answer hworker] at hless ⊢
                  refine hgoOn (Worker.goOn_not_idle _ _ _) hless (by omega) ?_
                  simp only [Alarm.isStart]
                  omega
              | stopped => cases hfits
          | never => cases htime

end Clock

/-! ## Runs -/

namespace Run

theorem workers_pos (run : Run) (processors : Nat) : 0 < run.workers processors := by
  unfold workers Plan.workers
  omega

/-- In a clocked run all workers stop, and it gives what its crew gives then. -/
theorem isDone_clocked {ω : Type} (run : Run) (world : Clock.World ω) (processors : Nat)
    (start : ω) :
    ∃ events, ((run.crew processors).run run.journey events).isDone = true ∧
      (run.clocked world processors start).1 =
        ((run.crew processors).run run.journey events).result.map Outcome.mk := by
  let atStart : Clock.State ω :=
    ⟨run.crew processors, 0, List.replicate (run.workers processors) .start, start⟩
  have haligned : atStart.Aligned none := by
    refine ⟨by simp [atStart, crew, Crew.assemble], ?_⟩
    intro i alarm worker _ halarm hworker
    cases List.eq_of_mem_replicate (List.mem_of_getElem? halarm)
    cases List.eq_of_mem_replicate (List.mem_of_getElem? hworker)
    trivial
  have hahead : atStart.crew.Ahead run.registry.calls run.callBound := by
    rw [callBound_eq]
    exact Crew.ahead_assemble _ _ _
  have hfuel : run.callBound + atStart.alarms.countP Clock.Alarm.isStart ≤
      run.callBound + 1 + run.workers processors := by
    have hcount : atStart.alarms.countP Clock.Alarm.isStart ≤ run.workers processors := by
      calc
        atStart.alarms.countP Clock.Alarm.isStart ≤ atStart.alarms.length :=
            List.countP_le_length
        _ = run.workers processors := List.length_replicate
    omega
  have hdone := Clock.isDone_advance world (Journey.ofEntry_within run.registry) haligned hahead
    (Nat.lt_succ_self _) hfuel
  rcases Clock.exists_events_advance world run.journey (run.callBound + 1)
    (run.callBound + 1 + run.workers processors) atStart with ⟨events, hcrew⟩
  have hlast : (Clock.advance world run.journey (run.callBound + 1)
      (run.callBound + 1 + run.workers processors) atStart).crew =
        (run.crew processors).run run.journey events := hcrew
  refine ⟨events, ?_, ?_⟩
  · rw [← hlast]
    exact hdone
  · rw [← hlast]
    rfl

/-- Surroundings in which a plan is carried out until all workers have stopped.  In which order the
answers come is left open. -/
def Surroundings.CarriesThrough {σ : Type} (around : Surroundings σ) (run : Run) : Prop :=
  ∀ options s after, around.launch options s = (.ok (), after) →
    ∃ processors events, ((run.crew processors).run run.journey events).isDone = true ∧
      (around.carryOut run options after).1 =
        ((run.crew processors).run run.journey events).result.map Outcome.mk

theorem surroundings_carriesThrough {σ : Type} {pipe : Session.Pipe σ} (peer : Session.Peer σ)
    (isDirectory : String → Bool) (probe : Nat → Server.PortState) (processors : Nat) (run : Run) :
    (surroundings peer isDirectory probe processors pipe).CarriesThrough run := by
  intro options s after hlaunch
  rcases Session.exists_of_launch peer options hlaunch with ⟨session, rfl⟩
  rcases run.isDone_clocked (Session.world peer options.baseUrl pipe) processors
    ⟨session, List.replicate (run.workers processors) none⟩ with ⟨events, hdone, hresult⟩
  exact ⟨processors, events, hdone, hresult⟩

/-! ## Outcomes -/

variable {σ : Type} {around : Surroundings σ} {run : Run} {s after : σ} {o : Outcome}
  {milestones : List Milestone}

/-- An outcome comes of carrying out the plan, after a browser was launched. -/
theorem exists_carryOut (h : run.perform around s = (.ok o, milestones, after)) :
    ∃ options start later, around.launch options start = (.ok (), later) ∧
      (around.carryOut run options later).1 = .ok o := by
  have hperformed (site : String) (start : σ)
      (hresult : (performAt around run site start).1 = .ok o) :
      ∃ options start later, around.launch options start = (.ok (), later) ∧
        (around.carryOut run options later).1 = .ok o := by
    unfold performAt at hresult
    dsimp only at hresult
    split at hresult
    · cases hresult
    · rename_i later hlaunched
      exact ⟨_, start, later, hlaunched, hresult⟩
  unfold perform at h
  split at h
  · rename_i site hsite
    exact hperformed site s (congrArg Prod.fst h)
  · split at h
    · cases (Prod.mk.inj h).1
    · rename_i site later hserved
      exact hperformed site later (congrArg Prod.fst h)
  · cases (Prod.mk.inj h).1

/-- What a run gives is complete if its plan is carried through. -/
theorem exists_complete (hcarries : around.CarriesThrough run)
    (hfound : run.plan.FoundIn run.registry)
    (h : run.perform around s = (.ok o, milestones, after)) :
    ∃ processors events,
      o.Complete run ((run.crew processors).exchanges run.journey events) := by
  rcases exists_carryOut h with ⟨options, start, later, hlaunch, hcarryOut⟩
  rcases hcarries options start later hlaunch with ⟨processors, events, hdone, hresult⟩
  exact ⟨processors, events, complete_of_result hfound (run.workers_pos processors) hdone
    (hresult.symm.trans hcarryOut)⟩

end Run
end LayoutAudit
