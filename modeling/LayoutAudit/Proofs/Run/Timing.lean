import LayoutAudit.Proofs.Run.Chronicle
import LayoutAudit.Run.Outcome
import LayoutAudit.Run.Clock

/-!
# Proofs.Run.Timing — runs in the course of time are runs

When answers come only decides in which order they come.  What a world promises of its responses is
therefore true of all answers of a run, whenever they come.

* `Clock.Yields` — a world that keeps a promise about its responses;
* `Crew.Event.From` — an event that is no answer, or one that keeps the promise;
* `Clock.State.Calm`, `Clock.proceed_calm`, `Clock.advance_calm` — so do those that are on their way;
* `Clock.exists_events_advance` — the clock lets events happen;
* `Run.events_clocked` — a run in the course of time is what its crew gives after such events.
-/

namespace LayoutAudit

/-- If an event is an answer, it is a response of some kind. -/
def Crew.Event.From (good : Clock.Response → Prop) : Crew.Event → Prop
  | start _ => True
  | answer _ reaction => ∃ response, good response ∧ reaction = response.reaction

namespace Clock

variable {ω : Type} {world : World ω} {good : Response → Prop} {sound : ω → Prop}

/-- A world that is sound stays sound, and gives good responses. -/
def Yields (world : World ω) (good : Response → Prop) (sound : ω → Prop) : Prop :=
  ∀ time worker entry call w, sound w →
    good (world time worker entry call w).1 ∧ sound (world time worker entry call w).2

/-- A state in which all responses that are on their way are good. -/
structure State.Calm (good : Response → Prop) (sound : ω → Prop) (s : State ω) : Prop where
  world : sound s.world
  alarms : ∀ time response, .at time response ∈ s.alarms → good response

theorem State.Calm.set {s : State ω} (h : s.Calm good sound) {i : Nat} {alarm : Alarm}
    (halarm : ∀ time response, alarm = .at time response → good response) {w : ω}
    (hw : sound w) (clock : Nat) (crew : Crew) :
    State.Calm good sound ⟨crew, clock, s.alarms.set i alarm, w⟩ := by
  refine ⟨hw, ?_⟩
  intro time response hmem
  rcases List.mem_or_eq_of_mem_set hmem with hold | hnew
  · exact h.alarms time response hold
  · exact halarm time response hnew.symm

theorem proceed_calm (hworld : Yields world good sound) (journey : Plan.Entry → Journey)
    (i fuel : Nat) {s : State ω} (hs : s.Calm good sound) :
    ∃ events, (proceed world journey i fuel s).crew = s.crew.run journey events ∧
      (∀ event ∈ events, event.From good) ∧
      (proceed world journey i fuel s).Calm good sound := by
  induction fuel generalizing s with
  | zero => exact ⟨[], rfl, by simp, hs⟩
  | succ fuel ih =>
      unfold proceed
      split
      · rename_i entry call next hworker
        have hresponse := hworld s.clock i entry call s.world hs.world
        dsimp only
        split
        · rcases ih (s := ⟨s.crew.step journey (.answer i _), s.clock, s.alarms, _⟩)
            ⟨hresponse.2, hs.alarms⟩ with ⟨events, hcrew, hevents, hcalm⟩
          refine ⟨.answer i (world s.clock i entry call s.world).1.reaction :: events, hcrew, ?_,
            hcalm⟩
          intro event hevent
          rcases List.mem_cons.1 hevent with rfl | hlater
          · exact ⟨_, hresponse.1, rfl⟩
          · exact hevents event hlater
        · refine ⟨[], rfl, by simp, hs.set ?_ hresponse.2 s.clock s.crew⟩
          intro time response halarm
          cases halarm
          exact hresponse.1
      · refine ⟨[], rfl, by simp, hs.set ?_ hs.world s.clock s.crew⟩
        intro time response halarm
        cases halarm

theorem advance_calm (hworld : Yields world good sound) (journey : Plan.Entry → Journey)
    (calls fuel : Nat) {s : State ω} (hs : s.Calm good sound) :
    ∃ events, (advance world journey calls fuel s).crew = s.crew.run journey events ∧
      (∀ event ∈ events, event.From good) ∧ sound (advance world journey calls fuel s).world := by
  induction fuel generalizing s with
  | zero => exact ⟨[], rfl, by simp, hs.world⟩
  | succ fuel ih =>
      unfold advance
      split
      · exact ⟨[], rfl, by simp, hs.world⟩
      · rename_i time i hnext
        -- The worker begins, or its response comes; then it goes on, and then the others.
        have hgoOn (event : Crew.Event) (hevent : event.From good) : ∃ events,
            (advance world journey calls fuel (proceed world journey i calls
              { s with clock := time, crew := s.crew.step journey event })).crew =
                s.crew.run journey events ∧
            (∀ event ∈ events, event.From good) ∧
            sound (advance world journey calls fuel (proceed world journey i calls
              { s with clock := time, crew := s.crew.step journey event })).world := by
          rcases proceed_calm hworld journey i calls
            (s := { s with clock := time, crew := s.crew.step journey event })
            ⟨hs.world, hs.alarms⟩ with ⟨now, hnow, hnowGood, hcalm⟩
          rcases ih hcalm with ⟨later, hlater, hlaterGood, hsound⟩
          refine ⟨event :: (now ++ later), ?_, ?_, hsound⟩
          · rw [hlater, hnow, Crew.run_cons, Crew.run_append]
          · intro other hother
            rcases List.mem_cons.1 hother with rfl | hrest
            · exact hevent
            · exact (List.mem_append.1 hrest).elim (hnowGood other) (hlaterGood other)
        apply hgoOn
        split
        · rename_i at_ response halarm
          exact ⟨response, hs.alarms _ response (List.mem_of_getElem? halarm), rfl⟩
        · trivial

/-- Whatever answers, the clock lets events happen. -/
theorem exists_events_advance (world : World ω) (journey : Plan.Entry → Journey)
    (calls fuel : Nat) (s : State ω) :
    ∃ events, (advance world journey calls fuel s).crew = s.crew.run journey events := by
  have hany : Yields world (fun _ => True) fun _ => True := by
    intro time worker entry call w _
    exact ⟨trivial, trivial⟩
  rcases advance_calm hany journey calls fuel (s := s) ⟨trivial, fun _ _ _ => trivial⟩ with
    ⟨events, hcrew, -, -⟩
  exact ⟨events, hcrew⟩

end Clock

/-- A run gives what its crew gives after answers that keep the promise of the world, and leaves the
world sound. -/
theorem Run.events_clocked {ω : Type} (run : Run) {world : Clock.World ω}
    {good : Clock.Response → Prop} {sound : ω → Prop} (hworld : Clock.Yields world good sound)
    (processors : Nat) (start : ω) (hstart : sound start) :
    ∃ events, (∀ event ∈ events, event.From good) ∧
      (run.clocked world processors start).1 =
        ((run.crew processors).run run.journey events).result.map Outcome.mk ∧
      sound (run.clocked world processors start).2 := by
  let atStart : Clock.State ω :=
    ⟨run.crew processors, 0, List.replicate (run.workers processors) .start, start⟩
  have hcalm : atStart.Calm good sound := by
    refine ⟨hstart, ?_⟩
    intro time response hmem
    cases List.eq_of_mem_replicate hmem
  rcases Clock.advance_calm hworld run.journey (run.callBound + 1)
    (run.callBound + 1 + run.workers processors) hcalm with ⟨events, hcrew, hevents, hsound⟩
  exact ⟨events, hevents, by rw [← hcrew]; rfl, hsound⟩

end LayoutAudit
