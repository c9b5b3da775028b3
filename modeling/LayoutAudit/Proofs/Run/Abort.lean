import LayoutAudit.Proofs.Run.Opening

/-!
# Proofs.Run.Abort — the first failure ends a run

The routines are arbitrary, and so are the answers and the order in which workers get them.  A
failure is recorded in the same move that lets its worker stop, so that there is no moment at which
a failure is known and something is claimed nevertheless.

* `Crew.FirstFailure` — the place in a story where the first failure is recorded;
* `Crew.split_at_failure` — a run up to that moment, and what comes after it;
* `Crew.claims_single` — a worker that is alone goes through the plan in order;
* `Crew.abort_at_first_failure` — how runs end.
-/

namespace LayoutAudit
namespace Crew

variable {journey : Plan.Entry → Journey} {p : Plan} {c : Crew}
variable {story earlier later : List Note} {entry : Plan.Entry} {f : Failure}

/-- The first failure that is recorded in a story. -/
structure FirstFailure (story earlier : List Note) (entry : Plan.Entry) (f : Failure)
    (later : List Note) : Prop where
  split : story = earlier ++ .recorded entry (.error f) :: later
  first : Note.failures earlier = []

theorem exists_firstFailure (hfailure : (Note.failures story).head? = some f) :
    ∃ earlier entry later, FirstFailure story earlier entry f later := by
  induction story with
  | nil => simp at hfailure
  | cons note notes ih =>
      cases hnote : note.failure? with
      | none =>
          have hrest : (Note.failures notes).head? = some f := by
            simpa [Note.failures, hnote] using hfailure
          rcases ih hrest with ⟨earlier, entry, later, hsplit, hfirst⟩
          refine ⟨note :: earlier, entry, later, by simp [hsplit], ?_⟩
          simpa [Note.failures, hnote] using hfirst
      | some g =>
          have heq : g = f := by simpa [Note.failures, hnote] using hfailure
          rcases note with _ | _ | ⟨entry, _ | g'⟩ <;> simp [Note.failure?] at hnote
          exact ⟨[], entry, notes, by simp [hnote, heq], rfl⟩

theorem FirstFailure.head?_failures (hfirst : FirstFailure story earlier entry f later) :
    (Note.failures story).head? = some f := by
  simp [hfirst.split, hfirst.first]

/-! ## The crew at the moment of a failure -/

/-- A failure is recorded at the end of an event, when its worker has stopped. -/
theorem split_at_failure {workers : Nat} {events : List Event}
    (hsplit : (assemble p workers).story journey events =
      earlier ++ .recorded entry (.error f) :: later) :
    ∃ before after : List Event, events = before ++ after ∧
      (assemble p workers).story journey before = earlier ++ [.recorded entry (.error f)] ∧
      ((assemble p workers).run journey before).story journey after = later ∧
      ∃ i : Nat, ((assemble p workers).run journey before).workers[i]? = some .stopped := by
  rcases story_split _ _ hsplit with
    ⟨before, event, after, front, back, hevents, hnotes, hearlier, hlater⟩
  rcases step_cases journey ((assemble p workers).run journey before) event with
    ⟨-, hnil⟩ | ⟨i, worker, next, hworker, hmove, hstep⟩
  · simp [hnil] at hnotes
  · rcases hmove.last hnotes with ⟨rfl, hstopped⟩
    have hrun : (assemble p workers).run journey (before ++ [event]) =
        ((assemble p workers).run journey before).update i next := by
      rw [run_append, ← hstep]
      rfl
    refine ⟨before ++ [event], after, by simp [hevents], ?_, hlater.symm, i, ?_⟩
    · simp [story_append, Crew.story, hnotes, hearlier]
    · simp [hrun, update, hstopped, (List.getElem?_eq_some_iff.mp hworker).1]

theorem length_inHand_of_stopped {i : Nat} (hstopped : c.workers[i]? = some Worker.stopped) :
    c.inHand.length ≤ c.workers.length - 1 := by
  have hbound := (List.getElem?_eq_some_iff.mp hstopped).1
  have hrest : (c.workers.eraseIdx i).length = c.workers.length - 1 := by
    rw [List.length_eraseIdx_of_lt hbound]
  calc
    c.inHand.length = ((c.workers.eraseIdx i).filterMap Worker.held?).length := by
      simpa using (perm_inHand hstopped).length_eq
    _ ≤ c.workers.length - 1 := hrest ▸ List.length_filterMap_le _ _

/-- What is in flight at some moment has been finished when all workers have stopped. -/
theorem Chronicle.drained {notes : List Note} (hchronicle : Chronicle p (notes ++ later) c)
    (hdone : c.isDone = true) {other : Plan.Entry} (hother : other ∈ Note.inFlight notes) :
    other ∈ Note.finished later := by
  have hflight : other ∈ Note.claims notes ∧ other ∉ Note.finished notes := by
    simpa [Note.inFlight] using hother
  have hperm := hchronicle.held
  rw [inHand_of_isDone hdone, List.append_nil, Note.claims_append, Note.finished_append] at hperm
  have hfinished := hperm.mem_iff.mp (List.mem_append_left _ hflight.1)
  exact (List.mem_append.mp hfinished).resolve_left hflight.2

/-! ## A worker that is alone -/

theorem claims_single (hsingle : c.workers.length = 1)
    (hclaims : Note.claims story = Note.finished story ++ c.inHand) (events : List Event) :
    Note.claims (story ++ c.story journey events) =
      Note.finished (story ++ c.story journey events) ++ (c.run journey events).inHand := by
  induction events generalizing c story with
  | nil => simpa [Crew.story] using hclaims
  | cons event events ih =>
      have hnext : Note.claims (story ++ c.notes journey event) =
          Note.finished (story ++ c.notes journey event) ++ (c.step journey event).inHand := by
        rcases step_cases journey c event with
          ⟨hstep, hnil⟩ | ⟨i, worker, after, hworker, hmove, hstep⟩
        · simpa [hstep, hnil] using hclaims
        · -- The move is that of the only worker, so that it holds all that is in hand.
          rcases List.length_eq_one_iff.mp hsingle with ⟨only, honly⟩
          have hbound := (List.getElem?_eq_some_iff.mp hworker).1
          have hzero : i = 0 := by omega
          have hbefore : c.inHand = worker.held?.toList := by
            have hsame : only = worker := by simpa [honly, hzero] using hworker
            cases hheld : worker.held? <;> simp [inHand, honly, hsame, hheld]
          have hafter : (c.step journey event).inHand = after.1.held?.toList := by
            cases hheld : after.1.held? <;> simp [hstep, update, inHand, honly, hzero, hheld]
          calc
            Note.claims (story ++ c.notes journey event)
                = Note.finished story ++
                    (worker.held?.toList ++ Note.claims (c.notes journey event)) := by
                  simp [hclaims, hbefore]
            _ = Note.finished story ++
                    (Note.finished (c.notes journey event) ++ after.1.held?.toList) := by
                  rw [hmove.held]
            _ = Note.finished (story ++ c.notes journey event) ++ (c.step journey event).inHand := by
                  simp [hafter]
      have hlength : (c.step journey event).workers.length = 1 := by
        rw [length_workers_step, hsingle]
      simpa [Crew.story] using ih hlength hnext

theorem claims_assemble_one (journey : Plan.Entry → Journey) (p : Plan) (events : List Event) :
    Note.claims ((assemble p 1).story journey events) =
      Note.finished ((assemble p 1).story journey events) ++
        ((assemble p 1).run journey events).inHand := by
  have hstart : Note.claims [] = Note.finished [] ++ (assemble p 1).inHand := rfl
  simpa using claims_single rfl hstart events

/-! ## How runs end -/

theorem FirstFailure.failed {workers : Nat} {before : List Event}
    (hfirst : FirstFailure story earlier entry f later)
    (hbefore : (assemble p workers).story journey before =
      earlier ++ [.recorded entry (.error f)]) :
    ((assemble p workers).run journey before).ledger.failure.isSome = true := by
  simp [failure_run, hbefore, hfirst.first]

/-- Nothing is claimed after the first failure. -/
theorem FirstFailure.claims_later {workers : Nat} {events : List Event}
    (hfirst : FirstFailure ((assemble p workers).story journey events) earlier entry f later) :
    Note.claims later = [] := by
  rcases split_at_failure hfirst.split with ⟨before, after, -, hbefore, rfl, -⟩
  exact claims_story_of_failed after (hfirst.failed hbefore)

/-- No page is opened after the first failure. -/
theorem FirstFailure.opens_later {workers : Nat} {events : List Event}
    (hjourney : ∀ entry, (journey entry).OpensFirst)
    (hfirst : FirstFailure ((assemble p workers).story journey events) earlier entry f later) :
    Note.opens later = [] := by
  have hclaims := hfirst.claims_later
  rcases split_at_failure hfirst.split with ⟨before, after, -, -, rfl, -⟩
  have hhoused := ((housed_assemble p workers).run hjourney before).1
  have hopens := (hhoused.run hjourney after).2
  rw [hclaims] at hopens
  exact List.sublist_nil.mp hopens

/-- When the first failure is recorded each other worker has at most one entry in flight. -/
theorem FirstFailure.length_inFlight_le {workers : Nat} {events : List Event}
    (hfirst : FirstFailure ((assemble p workers).story journey events) earlier entry f later) :
    (Note.inFlight (earlier ++ [.recorded entry (.error f)])).length ≤ workers - 1 := by
  rcases split_at_failure hfirst.split with ⟨before, after, -, hbefore, -, i, hstopped⟩
  have hchronicle := chronicle_run journey p workers before
  rw [hbefore] at hchronicle
  rw [hchronicle.inFlight_perm.length_eq]
  have hlength := length_inHand_of_stopped hstopped
  rwa [length_workers_run, assemble, List.length_replicate] at hlength

theorem FirstFailure.drained {workers : Nat} {events : List Event}
    (hfirst : FirstFailure ((assemble p workers).story journey events) earlier entry f later)
    (hdone : ((assemble p workers).run journey events).isDone = true) :
    ∀ other ∈ Note.inFlight (earlier ++ [.recorded entry (.error f)]),
      other ∈ Note.finished later := by
  intro other hother
  have hchronicle := chronicle_run journey p workers events
  have hstory : (assemble p workers).story journey events =
      (earlier ++ [.recorded entry (.error f)]) ++ later := by simp [hfirst.split]
  rw [hstory] at hchronicle
  exact hchronicle.drained hdone hother

theorem FirstFailure.result_eq {workers : Nat} {events : List Event}
    (hfirst : FirstFailure ((assemble p workers).story journey events) earlier entry f later) :
    ((assemble p workers).run journey events).result = .error f := by
  have hledger : ((assemble p workers).run journey events).ledger.failure = some f := by
    rw [failure_run, hfirst.head?_failures]
  simp [result, hledger]

theorem firstFailure_of_result {workers : Nat} {events : List Event}
    (hresult : ((assemble p workers).run journey events).result = .error f) :
    ∃ earlier entry later,
      FirstFailure ((assemble p workers).story journey events) earlier entry f later := by
  refine exists_firstFailure ?_
  have hledger : ((assemble p workers).run journey events).ledger.failure = some f := by
    unfold result at hresult
    split at hresult
    · simp_all
    · simp at hresult
  rwa [failure_run] at hledger

/-- With one worker the first failure is the only one, and everything before it in the plan has
succeeded. -/
theorem FirstFailure.single {events : List Event}
    (hfirst : FirstFailure ((assemble p 1).story journey events) earlier entry f later) :
    ∃ k, p.entries[k]? = some entry ∧
      Note.claims ((assemble p 1).story journey events) = p.entries.take (k + 1) ∧
      (∀ j < k, ∃ other reports, p.entries[j]? = some other ∧
        Note.recorded other (.ok reports) ∈ (assemble p 1).story journey events) ∧
      Note.failures ((assemble p 1).story journey events) = [f] := by
  -- At the failure the only worker has stopped, so that all it had claimed has been finished.
  have hclaims : Note.claims ((assemble p 1).story journey events) =
      Note.finished earlier ++ [entry] := by
    rcases split_at_failure hfirst.split with ⟨before, after, -, hbefore, -, i, hstopped⟩
    have huntil := claims_assemble_one journey p before
    have hnone := length_inHand_of_stopped hstopped
    rw [length_workers_run] at hnone
    have hinHand : ((assemble p 1).run journey before).inHand = [] :=
      List.length_eq_zero_iff.mp (Nat.le_zero.mp hnone)
    rw [hbefore, hinHand] at huntil
    simpa [hfirst.split, hfirst.claims_later] using huntil
  -- Nothing is claimed afterwards, and so nothing is finished afterwards.
  have hlater : Note.finished later = [] := by
    have hordered := claims_assemble_one journey p events
    rw [hclaims, hfirst.split] at hordered
    simp at hordered
    exact hordered.1
  have hentries : p.entries = Note.finished earlier ++ [entry] ++
      ((assemble p 1).run journey events).ledger.queue := by
    rw [← (chronicle_run journey p 1 events).queue, hclaims]
  refine ⟨(Note.finished earlier).length, ?_, ?_, ?_, ?_⟩
  · simp [hentries]
  · rw [hclaims, hentries, List.take_left' (by simp)]
  · intro j hbound
    have hother : (Note.finished earlier)[j] ∈ Note.finished earlier := List.getElem_mem hbound
    rcases Note.mem_finished_iff.mp hother with ⟨result, hnote⟩
    cases result with
    | ok reports =>
        refine ⟨_, reports, ?_, hfirst.split ▸ List.mem_append_left _ hnote⟩
        simp [hentries, List.getElem?_append_left, hbound]
    | error g =>
        have hfailure := Note.mem_failures_iff.mpr ⟨_, hnote⟩
        simp [hfirst.first] at hfailure
  · have hnone : Note.failures later = [] := by
      refine List.eq_nil_iff_forall_not_mem.mpr fun g hfailure => ?_
      rcases Note.mem_failures_iff.mp hfailure with ⟨other, hnote⟩
      have hother := Note.mem_finished_iff.mpr ⟨_, hnote⟩
      simp [hlater] at hother
    simp [hfirst.split, hfirst.first, hnone]

/-- How runs end, whatever their scenarios, the number of their workers, the answers they get and
the order in which they get them. -/
theorem abort_at_first_failure (routine : Plan.Entry → Attempt Routine) (p : Plan)
    (workers : Nat) (events : List Event) :
    let journey := Journey.following routine
    let crew := (assemble p workers).run journey events
    let story := (assemble p workers).story journey events
    -- The story leaves nothing out that the crew does.
    (crew.ledger = (Ledger.ofPlan p).replay story ∧ (Note.inFlight story).Perm crew.inHand ∧
      ∀ worker ∈ crew.workers, ∀ call ∈ worker.call?, call ∈ Note.calls story) ∧
    -- Entries are started in the order of the plan, and none of them twice.
    (Note.claims story <+: p.entries ∧ (Note.claims story).Nodup ∧
      (Note.opens story).Sublist (Note.claims story)) ∧
    -- Whatever comes after the first failure, nothing is started, and what is in flight ends.
    (∀ earlier entry f later, FirstFailure story earlier entry f later →
      Note.claims later = [] ∧ Note.opens later = [] ∧
      (Note.inFlight (earlier ++ [.recorded entry (.error f)])).length ≤ workers - 1 ∧
      (crew.isDone = true → ∀ other ∈ Note.inFlight (earlier ++ [.recorded entry (.error f)]),
        other ∈ Note.finished later) ∧
      crew.result = .error f) ∧
    -- Only a failure that was recorded is returned.
    (∀ f, crew.result = .error f → ∃ earlier entry later,
      FirstFailure story earlier entry f later ∧
      -- A worker that is alone stops at the first entry of the plan that fails.
      (workers = 1 → ∃ k, p.entries[k]? = some entry ∧
        Note.claims story = p.entries.take (k + 1) ∧
        (∀ j < k, ∃ other reports, p.entries[j]? = some other ∧
          Note.recorded other (.ok reports) ∈ story) ∧
        Note.failures story = [f])) := by
  intro journey crew story
  have hchronicle := chronicle_run journey p workers events
  have hhoused := (housed_assemble p workers).run (Journey.following_opensFirst routine) events
  refine ⟨⟨ledger_run _ events, hchronicle.inFlight_perm, hchronicle.waiting⟩,
    ⟨⟨_, hchronicle.queue⟩, hchronicle.claims_nodup, hhoused.2⟩, ?_, ?_⟩
  · intro earlier entry f later hfirst
    exact ⟨hfirst.claims_later, hfirst.opens_later (Journey.following_opensFirst routine),
      hfirst.length_inFlight_le, hfirst.drained, hfirst.result_eq⟩
  · intro f hresult
    rcases firstFailure_of_result hresult with ⟨earlier, entry, later, hfirst⟩
    refine ⟨earlier, entry, later, hfirst, ?_⟩
    rintro rfl
    exact hfirst.single

/-- The second of two workers fails while the first is under way. -/
theorem abort_with_two_workers :
    let journey := Journey.following fun _ => .ok (.done (.ok ()))
    let p := Plan.product ["a", "b", "c"] [⟨"w", 1, 1⟩]
    let story := (assemble p 2).story journey [.start 0, .start 1,
      .answer 1 fun _ => .error .browserMissing, .answer 0 fun _ => .error .noScenarios]
    ∃ earlier entry later, FirstFailure story earlier entry .browserMissing later ∧
      Note.claims later = [] ∧
      ((assemble p 2).run journey [.start 0, .start 1,
        .answer 1 fun _ => .error .browserMissing,
        .answer 0 fun _ => .error .noScenarios]).result = .error .browserMissing := by
  intro journey p story
  have hfirst : FirstFailure story
      [.claimed ⟨0, "a", ⟨"w", 1, 1⟩⟩, .called ⟨0, "a", ⟨"w", 1, 1⟩⟩ (.openPage ⟨"w", 1, 1⟩),
        .claimed ⟨1, "b", ⟨"w", 1, 1⟩⟩, .called ⟨1, "b", ⟨"w", 1, 1⟩⟩ (.openPage ⟨"w", 1, 1⟩)]
      ⟨1, "b", ⟨"w", 1, 1⟩⟩ .browserMissing
      [.recorded ⟨0, "a", ⟨"w", 1, 1⟩⟩ (.error .noScenarios)] := ⟨rfl, rfl⟩
  have habort := (abort_at_first_failure _ p 2 _).2.2.1 _ _ _ _ hfirst
  exact ⟨_, _, _, hfirst, habort.1, habort.2.2.2.2⟩

end Crew
end LayoutAudit
