import LayoutAudit.Proofs.Run.Move
import Mathlib.Data.List.Perm.Basic

/-!
# Proofs.Run.Chronicle — what the story of a run keeps to

* `Exchange` — a call with its answer;
* `Crew.story` — the notes of all events;
* `Crew.turn_step`, `Crew.step_cases` — an event is the move of one worker, or nothing;
* `Crew.Chronicle` — how a story, the ledger and the workers hang together;
* `Crew.chronicle_run` — they do so after every sequence of events;
* `Crew.story_split` — a note belongs to one event.
-/

namespace LayoutAudit

structure Exchange where
  call : Call
  answer : Attempt call.Reply

namespace Crew

variable {journey : Plan.Entry → Journey} {p : Plan} {c : Crew}

def notes (journey : Plan.Entry → Journey) (c : Crew) : Event → List Note
  | .start i =>
      match c.workers[i]? with
      | some .idle => Worker.claimNotes journey c.ledger.queue c.ledger
      | _ => []
  | .answer i reaction =>
      match c.workers[i]? with
      | some (.waiting entry call next) =>
          Worker.goOnNotes journey entry (next (reaction call)) c.ledger
      | _ => []

/-- The exchange of an event, if a worker gets an answer. -/
def exchange (c : Crew) : Event → List (Plan.Entry × Exchange)
  | .start _ => []
  | .answer i reaction =>
      match c.workers[i]? with
      | some (.waiting entry call _) => [(entry, ⟨call, reaction call⟩)]
      | _ => []

def story (journey : Plan.Entry → Journey) (c : Crew) : List Event → List Note
  | [] => []
  | event :: events => c.notes journey event ++ (c.step journey event).story journey events

/-- The entries that workers are in the middle of. -/
def inHand (c : Crew) : List Plan.Entry := c.workers.filterMap Worker.held?

@[simp] theorem run_nil (c : Crew) : c.run journey [] = c := rfl

@[simp] theorem run_cons (c : Crew) (event : Event) (events : List Event) :
    c.run journey (event :: events) = (c.step journey event).run journey events := rfl

theorem run_append (c : Crew) (events more : List Event) :
    c.run journey (events ++ more) = (c.run journey events).run journey more := by
  simp [run]

theorem story_append (c : Crew) (events more : List Event) :
    c.story journey (events ++ more) =
      c.story journey events ++ (c.run journey events).story journey more := by
  induction events generalizing c with
  | nil => rfl
  | cons event events ih => simp [story, ih]

/-! ## An event is the move of one worker -/

/-- What an event can come to: its story, its exchange and the crew after it. -/
inductive Turn (journey : Plan.Entry → Journey) (c : Crew) :
    Event → List Note → List (Plan.Entry × Exchange) → Crew → Prop where
  | begun {i : Nat} (hworker : c.workers[i]? = some .idle) :
      Turn journey c (.start i) (Worker.claimNotes journey c.ledger.queue c.ledger) []
        (c.update i (Worker.claim journey c.ledger))
  | answered {i : Nat} {reaction : Reaction} {entry : Plan.Entry} {call : Call}
      {next : Attempt call.Reply → Journey}
      (hworker : c.workers[i]? = some (.waiting entry call next)) :
      Turn journey c (.answer i reaction)
        (Worker.goOnNotes journey entry (next (reaction call)) c.ledger)
        [(entry, ⟨call, reaction call⟩)]
        (c.update i (Worker.goOn journey entry (next (reaction call)) c.ledger))
  | missed {event : Event} : Turn journey c event [] [] c

theorem turn_step (journey : Plan.Entry → Journey) (c : Crew) (event : Event) :
    Turn journey c event (c.notes journey event) (c.exchange event) (c.step journey event) := by
  cases event with
  | start i =>
      rcases hworker : c.workers[i]? with _ | _ | ⟨entry, call, next⟩ | _
      case some.idle => simpa [step, start, notes, exchange, hworker] using Turn.begun hworker
      all_goals simpa [step, start, notes, exchange, hworker] using Turn.missed
  | answer i reaction =>
      rcases hworker : c.workers[i]? with _ | _ | ⟨entry, call, next⟩ | _
      case some.waiting => simpa [step, resume, notes, exchange, hworker] using Turn.answered hworker
      all_goals simpa [step, resume, notes, exchange, hworker] using Turn.missed

theorem step_cases (journey : Plan.Entry → Journey) (c : Crew) (event : Event) :
    (c.step journey event = c ∧ c.notes journey event = []) ∨
    ∃ i worker after, c.workers[i]? = some worker ∧
      Worker.Move worker.held? c.ledger (c.notes journey event) after ∧
      c.step journey event = c.update i after := by
  have hturn := turn_step journey c event
  generalize c.notes journey event = notes, c.exchange event = said, c.step journey event = c'
    at hturn
  cases hturn with
  | begun hworker => exact .inr ⟨_, _, _, hworker, Worker.move_claim c.ledger, rfl⟩
  | answered hworker => exact .inr ⟨_, _, _, hworker, Worker.move_goOn _ _ c.ledger, rfl⟩
  | missed => exact .inl ⟨rfl, rfl⟩

theorem length_workers_step (c : Crew) (event : Event) :
    (c.step journey event).workers.length = c.workers.length := by
  rcases step_cases journey c event with ⟨hstep, -⟩ | ⟨i, worker, after, -, -, hstep⟩
  · rw [hstep]
  · simp [hstep, update]

theorem length_workers_run (c : Crew) (events : List Event) :
    (c.run journey events).workers.length = c.workers.length := by
  induction events generalizing c with
  | nil => rfl
  | cons event events ih => rw [run_cons, ih, length_workers_step]

/-! ## The ledger is the replay of the story -/

theorem ledger_step (c : Crew) (event : Event) :
    (c.step journey event).ledger = c.ledger.replay (c.notes journey event) := by
  rcases step_cases journey c event with ⟨hstep, hnotes⟩ | ⟨i, worker, after, -, hmove, hstep⟩
  · simp [hstep, hnotes]
  · simpa [hstep, update] using hmove.ledger

theorem ledger_run (c : Crew) (events : List Event) :
    (c.run journey events).ledger = c.ledger.replay (c.story journey events) := by
  induction events generalizing c with
  | nil => rfl
  | cons event events ih => simp [story, ih, ledger_step]

theorem failure_run (journey : Plan.Entry → Journey) (p : Plan) (workers : Nat)
    (events : List Event) :
    ((assemble p workers).run journey events).ledger.failure =
      (Note.failures ((assemble p workers).story journey events)).head? := by
  rw [ledger_run, Ledger.failure_replay]
  simp [assemble, Ledger.ofPlan]

theorem failed_step (journey : Plan.Entry → Journey) (event : Event)
    (hfailed : c.ledger.failure.isSome = true) :
    (c.step journey event).ledger.failure.isSome = true := by
  rw [ledger_step, Ledger.failure_replay]
  cases hfailure : c.ledger.failure <;> simp_all

/-- Once a failure has been recorded nothing is claimed. -/
theorem claims_story_of_failed (events : List Event)
    (hfailed : c.ledger.failure.isSome = true) : Note.claims (c.story journey events) = [] := by
  induction events generalizing c with
  | nil => rfl
  | cons event events ih =>
      have hnotes : Note.claims (c.notes journey event) = [] := by
        rcases step_cases journey c event with ⟨-, hnotes⟩ | ⟨i, worker, after, -, hmove, -⟩
        · simp [hnotes]
        · exact hmove.quiet hfailed
      simp [story, hnotes, ih (failed_step journey event hfailed)]

/-! ## What is in hand -/

theorem perm_inHand {i : Nat} {worker : Worker} (hworker : c.workers[i]? = some worker) :
    List.Perm c.inHand
      (worker.held?.toList ++ (c.workers.eraseIdx i).filterMap Worker.held?) := by
  rcases List.getElem?_eq_some_iff.mp hworker with ⟨hbound, rfl⟩
  have hperm := (List.getElem_cons_eraseIdx_perm hbound).symm.filterMap Worker.held?
  cases hentry : (c.workers[i]).held? <;> simpa [inHand, hentry] using hperm

theorem perm_inHand_update {i : Nat} {worker : Worker} (hworker : c.workers[i]? = some worker)
    (after : Worker × Ledger) :
    List.Perm (c.update i after).inHand
      (after.1.held?.toList ++ (c.workers.eraseIdx i).filterMap Worker.held?) := by
  have hbound := (List.getElem?_eq_some_iff.mp hworker).1
  have hset : (c.update i after).workers[i]? = some after.1 := by simp [update, hbound]
  have hrest : (c.update i after).workers.eraseIdx i = c.workers.eraseIdx i := by
    simp [update, List.eraseIdx_set_eq]
  simpa [hrest] using perm_inHand hset

/-! ## The invariant -/

/-- How the story of a run, its ledger and its workers hang together. -/
structure Chronicle (p : Plan) (story : List Note) (c : Crew) : Prop where
  /-- Entries are claimed in the order of the plan. -/
  queue : Note.claims story ++ c.ledger.queue = p.entries
  /-- What has been claimed has been finished or is in hand, and neither is so twice. -/
  held : List.Perm (Note.claims story) (Note.finished story ++ c.inHand)
  /-- Calls that workers wait for have been told. -/
  waiting : ∀ worker ∈ c.workers, ∀ call ∈ worker.call?, call ∈ Note.calls story
  /-- Workers stop only when nothing is left to do. -/
  stopped : .stopped ∈ c.workers → c.ledger.queue = [] ∨ c.ledger.failure.isSome = true

theorem chronicle_assemble (p : Plan) (workers : Nat) : Chronicle p [] (assemble p workers) where
  queue := rfl
  held := by
    cases workers <;> simp [inHand, assemble, Worker.held?, List.filterMap_replicate]
  waiting := by
    intro worker hworker
    rw [List.eq_of_mem_replicate hworker]
    simp [Worker.call?]
  stopped := by simp [assemble]

theorem Chronicle.step {story : List Note} (hchronicle : Chronicle p story c) (event : Event) :
    Chronicle p (story ++ c.notes journey event) (c.step journey event) := by
  rcases step_cases journey c event with ⟨hstep, hnotes⟩ | ⟨i, worker, after, hworker, hmove, hstep⟩
  · simpa [hstep, hnotes] using hchronicle
  · rw [hstep]
    generalize c.notes journey event = notes at hmove
    refine ⟨?_, ?_, ?_, ?_⟩
    · have hqueue := hchronicle.queue
      rw [← hmove.queue] at hqueue
      simpa [update] using hqueue
    · -- Both sides hold what the other workers have in hand; the rest is what the move says.
      have hbefore := hchronicle.held.trans ((perm_inHand hworker).append_left _)
      have hafter := (perm_inHand_update hworker after).append_left
        (Note.finished story ++ Note.finished notes)
      have hheld := congrArg (Note.finished story ++ ·) hmove.held
      rw [Note.claims_append, Note.finished_append]
      refine (hbefore.append_right (Note.claims notes)).trans (List.Perm.trans ?_ hafter.symm)
      simp only [← List.append_assoc] at hheld ⊢
      rw [← hheld]
      simp only [List.append_assoc]
      exact (List.perm_append_comm.append_left _).append_left _
    · intro other hother call hcall
      rw [Note.calls_append]
      rcases List.mem_or_eq_of_mem_set hother with hold | rfl
      · exact List.mem_append_left _ (hchronicle.waiting other hold call hcall)
      · rw [hmove.calls]
        exact List.mem_append_right _ (Option.mem_toList.mpr hcall)
    · intro hstopped
      have hfate : after.2.queue = [] ∨ after.2.failure.isSome = true := by
        rcases List.mem_or_eq_of_mem_set hstopped with hother | hself
        · -- An empty queue stays empty, and a failure stays recorded.
          rcases hchronicle.stopped hother with hqueue | hfailed
          · have hempty := hmove.queue
            rw [hqueue] at hempty
            exact .inl (List.append_eq_nil_iff.mp hempty).2
          · have hlater := failed_step journey event hfailed
            rw [hstep] at hlater
            exact .inr hlater
        · exact hmove.stopped hself.symm
      exact hfate

theorem Chronicle.run {story : List Note} (hchronicle : Chronicle p story c)
    (events : List Event) :
    Chronicle p (story ++ c.story journey events) (c.run journey events) := by
  induction events generalizing c story with
  | nil => simpa [Crew.story] using hchronicle
  | cons event events ih =>
      simpa [Crew.story] using ih (hchronicle.step event)

/-- The chronicle of a run from its start. -/
theorem chronicle_run (journey : Plan.Entry → Journey) (p : Plan) (workers : Nat)
    (events : List Event) :
    Chronicle p ((assemble p workers).story journey events)
      ((assemble p workers).run journey events) := by
  simpa using (chronicle_assemble p workers).run events

/-! ## What follows -/

section

variable {story : List Note}

theorem Chronicle.claims_nodup (hchronicle : Chronicle p story c) :
    (Note.claims story).Nodup := by
  have hnodup := p.entries_nodup
  rw [← hchronicle.queue] at hnodup
  exact (List.nodup_append.mp hnodup).1

/-- The entries in flight are those in hand. -/
theorem Chronicle.inFlight_perm (hchronicle : Chronicle p story c) :
    List.Perm (Note.inFlight story) c.inHand := by
  have hnodup := hchronicle.held.nodup_iff.mp hchronicle.claims_nodup
  have hdisjoint := (List.nodup_append.mp hnodup).2.2
  refine (hchronicle.held.filter _).trans ?_
  rw [List.filter_append]
  have hfinished : (Note.finished story).filter
      (fun entry => !(Note.finished story).contains entry) = [] := by simp
  have hinHand : c.inHand.filter (fun entry => !(Note.finished story).contains entry) =
      c.inHand := by
    refine List.filter_eq_self.mpr fun entry hentry => ?_
    -- What is in hand has been claimed once, so it cannot be finished as well.
    have hnew : entry ∉ Note.finished story := fun hold => hdisjoint entry hold entry hentry rfl
    simpa using hnew
  rw [hfinished, hinHand, List.nil_append]

theorem isDone_iff : c.isDone = true ↔ ∀ worker ∈ c.workers, worker = .stopped := by
  refine List.all_eq_true.trans (forall_congr' fun worker => imp_congr_right fun _ => ?_)
  cases worker <;> simp

theorem inHand_of_isDone (hdone : c.isDone = true) : c.inHand = [] := by
  refine List.filterMap_eq_nil_iff.mpr fun worker hworker => ?_
  rw [isDone_iff.mp hdone worker hworker, Worker.held?_stopped]

end

/-! ## A note belongs to one event -/

theorem story_split {earlier later : List Note} {note : Note} (c : Crew) (events : List Event)
    (hstory : c.story journey events = earlier ++ note :: later) :
    ∃ before event after front back, events = before ++ event :: after ∧
      (c.run journey before).notes journey event = front ++ note :: back ∧
      earlier = c.story journey before ++ front ∧
      later = back ++ (c.run journey (before ++ [event])).story journey after := by
  induction events generalizing c earlier with
  | nil => simp [story] at hstory
  | cons event events ih =>
      -- The note is told of a later event, or else of this one.
      rcases List.append_eq_append_iff.mp hstory with ⟨front, hearlier, hrest⟩ | ⟨back, hnotes, hrest⟩
      · rcases ih _ hrest with ⟨before, event', after, front', back', hevents, hnote, hfront, hlater⟩
        refine ⟨event :: before, event', after, front', back', by simp [hevents], hnote, ?_, hlater⟩
        simp [hearlier, hfront, story]
      · cases back with
        | nil =>
            -- The note is the first of a later event.
            have hfirst : (c.step journey event).story journey events = [] ++ note :: later := by
              simpa using hrest.symm
            rcases ih _ hfirst with
              ⟨before, event', after, front', back', hevents, hnote, hfront, hlater⟩
            refine ⟨event :: before, event', after, front', back', by simp [hevents], hnote, ?_,
              hlater⟩
            have hnil := List.append_eq_nil_iff.mp hfront.symm
            simpa [story, hnil.1, hnil.2] using hnotes.symm
        | cons head back =>
            have hhead := List.cons.inj hrest
            refine ⟨[], event, events, earlier, back, rfl, ?_, by simp [story], ?_⟩
            · simpa [← hhead.1] using hnotes
            · simpa using hhead.2

end Crew
end LayoutAudit
