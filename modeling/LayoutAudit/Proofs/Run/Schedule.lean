import LayoutAudit.Proofs.Run.Termination

/-!
# Proofs.Run.Schedule — the result of a run does not depend on its schedule

The slots of a ledger are filled in whatever order entries are finished, each at the number of its
entry.  When all workers have stopped without a failure, every slot has been filled.

* `Ledger.Slotted` — what the slots hold when some entries have been finished;
* `Crew.finished_perm_entries` — a run without a failure finishes the whole plan;
* `Crew.result_eq_ok`, `Crew.result_eq_error` — what the entries come to decides the result;
* `Stage.run_agrees_with_entries_alone` — a run gives what its entries give one by one.
-/

namespace LayoutAudit

/-! ## Slots -/

namespace Ledger

variable {outcome : Plan.Entry → Attempt (List Report)} {p : Plan} {l : Ledger}

/-- What the slot of a finished entry holds. -/
def itemOf (outcome : Plan.Entry → Attempt (List Report)) (entry : Plan.Entry) : Option Item :=
  (outcome entry).toOption.map (Item.mk entry)

/-- Each slot holds what its entry came to, if that has been finished. -/
def Slotted (outcome : Plan.Entry → Attempt (List Report)) (p : Plan)
    (finished : List Plan.Entry) (l : Ledger) : Prop :=
  l.slots = p.entries.map fun entry => if entry ∈ finished then itemOf outcome entry else none

theorem slotted_ofPlan (outcome : Plan.Entry → Attempt (List Report)) (p : Plan) :
    Slotted outcome p [] (ofPlan p) := by
  simp [Slotted, ofPlan]

theorem Slotted.record {finished : List Plan.Entry} (hslots : Slotted outcome p finished l)
    {entry : Plan.Entry} (hentry : entry ∈ p.entries) :
    Slotted outcome p (finished ++ [entry]) (l.record entry (outcome entry)) := by
  rcases List.getElem?_of_mem hentry with ⟨k, hat⟩
  have hindex : entry.index = k := p.index_of_getElem? hat
  cases houtcome : outcome entry with
  | ok reports =>
      simp only [Slotted, Ledger.record] at hslots ⊢
      rw [hslots, hindex]
      refine List.ext_getElem? fun j => ?_
      by_cases hself : k = j
      · subst hself
        rcases List.getElem?_eq_some_iff.mp hat with ⟨hbound, hentryAt⟩
        simp [hbound, hentryAt, itemOf, houtcome, Except.toOption]
      · rw [List.getElem?_set_ne hself]
        cases hother : p.entries[j]? with
        | none => simp [hother]
        | some other =>
            -- Entries at different places have different numbers.
            have hne : other ≠ entry := by
              rintro rfl
              exact hself (hindex.symm.trans (p.index_of_getElem? hother))
            simp [hother, hne]
  | error f =>
      simp only [Slotted, Ledger.record] at hslots ⊢
      rw [hslots]
      -- A failure leaves the slot of its entry empty, as it was before.
      refine List.map_congr_left fun other hother => ?_
      by_cases hsame : other = entry
      · simp [hsame, itemOf, houtcome, Except.toOption]
      · simp [hsame]

theorem Slotted.replay {finished : List Plan.Entry} {notes : List Note}
    (hslots : Slotted outcome p finished l)
    (hnotes : ∀ {entry result}, .recorded entry result ∈ notes →
      entry ∈ p.entries ∧ result = outcome entry) :
    Slotted outcome p (finished ++ Note.finished notes) (l.replay notes) := by
  induction notes generalizing l finished with
  | nil => simpa using hslots
  | cons note notes ih =>
      have hrest : ∀ {entry result}, .recorded entry result ∈ notes →
          entry ∈ p.entries ∧ result = outcome entry :=
        fun hnote => hnotes (List.mem_cons_of_mem _ hnote)
      cases note with
      | claimed entry =>
          have hclaimed : Slotted outcome p finished (l.enter (.claimed entry)) := hslots
          simpa using ih hclaimed hrest
      | called entry call => simpa using ih hslots hrest
      | recorded entry result =>
          rcases hnotes List.mem_cons_self with ⟨hentry, rfl⟩
          simpa using ih (hslots.record hentry) hrest

/-- Slots that are all filled give the items of the plan, in order. -/
theorem Slotted.items {finished : List Plan.Entry} {reports : Plan.Entry → List Report}
    (hslots : Slotted outcome p finished l) (hall : ∀ entry ∈ p.entries, entry ∈ finished)
    (hok : ∀ entry ∈ p.entries, outcome entry = .ok (reports entry)) :
    l.slots.filterMap id = p.entries.map fun entry => ⟨entry, reports entry⟩ := by
  have hfilled : l.slots = (p.entries.map fun entry => Item.mk entry (reports entry)).map some := by
    rw [hslots, List.map_map]
    refine List.map_congr_left fun entry hentry => ?_
    simp [hall entry hentry, itemOf, hok entry hentry, Except.toOption]
  rw [hfilled, List.filterMap_map]
  simp

end Ledger

/-! ## The end of a run -/

namespace Crew

variable {p : Plan} {c : Crew} {story : List Note}

variable {journey : Plan.Entry → Journey} {workers : Nat} {events : List Event}

theorem Chronicle.mem_entries_of_finished (hchronicle : Chronicle p story c) {entry : Plan.Entry}
    (hentry : entry ∈ Note.finished story) : entry ∈ p.entries := by
  have hclaimed := hchronicle.held.mem_iff.mpr (List.mem_append_left _ hentry)
  rw [← hchronicle.queue]
  exact List.mem_append_left _ hclaimed

theorem mem_entries_of_recorded {entry : Plan.Entry} {result : Attempt (List Report)}
    (hnote : .recorded entry result ∈ (assemble p workers).story journey events) :
    entry ∈ p.entries :=
  (chronicle_run journey p workers events).mem_entries_of_finished
    (Note.mem_finished_iff.mpr ⟨_, hnote⟩)

theorem exists_recorded_of_failure {f : Failure}
    (hfailure : ((assemble p workers).run journey events).ledger.failure = some f) :
    ∃ entry, .recorded entry (.error f) ∈ (assemble p workers).story journey events := by
  rw [failure_run] at hfailure
  exact Note.mem_failures_iff.mp (List.mem_of_mem_head? hfailure)

/-- Workers that have all stopped without a failure have finished the whole plan. -/
theorem finished_perm_entries (hworkers : 0 < workers)
    (hdone : ((assemble p workers).run journey events).isDone = true)
    (hfailure : ((assemble p workers).run journey events).ledger.failure = none) :
    List.Perm (Note.finished ((assemble p workers).story journey events)) p.entries := by
  have hchronicle := chronicle_run journey p workers events
  have hlength : 0 < ((assemble p workers).run journey events).workers.length := by
    rw [length_workers_run]
    simpa [assemble] using hworkers
  rcases List.exists_mem_of_length_pos hlength with ⟨worker, hworker⟩
  have hstopped := isDone_iff.mp hdone worker hworker ▸ hworker
  -- The workers have stopped although nothing failed, so that nothing is left to claim.
  have hqueue : ((assemble p workers).run journey events).ledger.queue = [] := by
    simpa [hfailure] using hchronicle.stopped hstopped
  have hclaims := hchronicle.queue
  have hheld := hchronicle.held
  rw [hqueue, List.append_nil] at hclaims
  rw [inHand_of_isDone hdone, List.append_nil, hclaims] at hheld
  exact hheld.symm

section

variable {outcome : Plan.Entry → Attempt (List Report)}
  (hresults : ∀ {entry result},
    .recorded entry result ∈ (assemble p workers).story journey events → result = outcome entry)

include hresults

/-- If no entry of the plan fails, the items are those of the plan. -/
theorem result_eq_ok (hworkers : 0 < workers)
    (hdone : ((assemble p workers).run journey events).isDone = true)
    {reports : Plan.Entry → List Report}
    (hok : ∀ entry ∈ p.entries, outcome entry = .ok (reports entry)) :
    ((assemble p workers).run journey events).result =
      .ok (p.entries.map fun entry => ⟨entry, reports entry⟩) := by
  cases hfailure : ((assemble p workers).run journey events).ledger.failure with
  | some f =>
      rcases exists_recorded_of_failure hfailure with ⟨entry, hnote⟩
      have hfailed := hresults hnote
      simp [hok entry (mem_entries_of_recorded hnote)] at hfailed
  | none =>
      have hfinished := finished_perm_entries hworkers hdone hfailure
      have hslots : Ledger.Slotted outcome p
          ([] ++ Note.finished ((assemble p workers).story journey events))
          ((assemble p workers).run journey events).ledger := by
        rw [ledger_run]
        exact (Ledger.slotted_ofPlan outcome p).replay
          fun hnote => ⟨mem_entries_of_recorded hnote, hresults hnote⟩
      simpa [result, hfailure] using
        hslots.items (fun entry hentry => hfinished.mem_iff.mpr hentry) hok

/-- If an entry of the plan fails, the failure of some entry is the result. -/
theorem result_eq_error (hworkers : 0 < workers)
    (hdone : ((assemble p workers).run journey events).isDone = true)
    (hbad : ∃ entry ∈ p.entries, ∃ f, outcome entry = .error f) :
    ∃ entry ∈ p.entries, ∃ f, outcome entry = .error f ∧
      ((assemble p workers).run journey events).result = .error f := by
  cases hfailure : ((assemble p workers).run journey events).ledger.failure with
  | some f =>
      rcases exists_recorded_of_failure hfailure with ⟨entry, hnote⟩
      exact ⟨entry, mem_entries_of_recorded hnote, f, (hresults hnote).symm,
        by simp [result, hfailure]⟩
  | none =>
      -- All entries would have been finished, the one that fails among them.
      have hfinished := finished_perm_entries hworkers hdone hfailure
      rcases hbad with ⟨entry, hentry, f, herror⟩
      rcases Note.mem_finished_iff.mp (hfinished.mem_iff.mpr hentry) with ⟨result, hnote⟩
      rw [hresults hnote, herror] at hnote
      have hsome := Note.mem_failures_iff.mpr ⟨entry, hnote⟩
      rw [failure_run, List.head?_eq_none_iff] at hfailure
      simp [hfailure] at hsome

end

end Crew

namespace Stage

/-- Whoever asks for how many workers, and in whatever order they take their turns, a run comes to
an end, and it gives what the entries of its plan give one by one. -/
theorem run_agrees_with_entries_alone (r : Registry) (p : Plan) (asked : Option Nat)
    (processors : Nat) (pages : Pages) :
    let journey := Journey.ofEntry r
    let workers := Plan.workers asked processors p.size
    let start := assemble p workers
    (∀ schedule, Fair workers schedule →
      ∃ n, (start.reach pages journey schedule n).crew.isDone = true) ∧
    ∀ schedule, (start.play pages journey schedule).crew.isDone = true →
      (∀ reports : Plan.Entry → List Report,
        (∀ entry ∈ p.entries, Journey.alone pages journey entry = .ok (reports entry)) →
        (start.play pages journey schedule).crew.result =
          .ok (p.entries.map fun entry => ⟨entry, reports entry⟩)) ∧
      ((∃ entry ∈ p.entries, ∃ f, Journey.alone pages journey entry = .error f) →
        ∃ entry ∈ p.entries, ∃ f, Journey.alone pages journey entry = .error f ∧
          (start.play pages journey schedule).crew.result = .error f) := by
  intro journey workers start
  have hjourney : ∀ entry, (journey entry).OpensFirst := Journey.following_opensFirst r.routine
  have hworkers : 0 < workers := by
    simp only [workers, Plan.workers]
    omega
  refine ⟨fun schedule hfair => ?_, fun schedule hdone => ?_⟩
  · refine exists_isDone hjourney start ?_
    simpa [start, assemble, Crew.assemble] using hfair
  · have hsound := sound_play hjourney pages p workers schedule
    have hcrew : (start.play pages journey schedule).crew =
        (Crew.assemble p workers).run journey (start.events pages journey schedule) :=
      crew_play start schedule
    rw [hcrew] at hdone ⊢
    exact ⟨fun reports hok => Crew.result_eq_ok hsound.results hworkers hdone hok,
      fun hbad => Crew.result_eq_error hsound.results hworkers hdone hbad⟩

end Stage
end LayoutAudit
