import LayoutAudit.Proofs.Run.Lifecycle
import LayoutAudit.Proofs.Run.Preparation
import LayoutAudit.Proofs.Run.Schedule
import LayoutAudit.Proofs.Run.Timing
import LayoutAudit.Proofs.Session.Faults

/-!
# Proofs.Run.Answers — the failures of a run are answers

Where every entry finds its scenario, a run fails only if a call was answered with that failure.  So
a run whose calls are never answered with a failure of some kind does not fail in that kind either,
in whatever order the answers come, and also where they come in the course of time.

* `Crew.mem_exchanges` — an exchange is the reaction of an event to a call;
* `Crew.failure_answered` — the failure of a run was the answer to a call;
* `Crew.Event.Blameless`, `Crew.result_blameless` — no answer is to blame, nor is the result;
* `Run.blameless_events_clocked` — worlds whose responses are not to blame.
-/

namespace LayoutAudit

theorem Exchange.Life.exists_failure {viewport : Viewport} {calls : List Call}
    {xs : List Exchange} {f : Failure} (hlife : Exchange.Life viewport calls xs (.error f)) :
    ∃ x ∈ xs, x.failure? = some f := by
  cases hlife with
  | refused => exact ⟨_, List.mem_singleton_self _, rfl⟩
  | @closed ys _ hcarried answer =>
      -- The page was left because of the last exchange before it was closed.
      generalize hfailure : Attempt.failure? (.error f : Attempt (List Report)) = failure
        at hcarried
      cases hcarried with
      | whole => cases hfailure
      | @cut zs last rest g hcalls hdone hlast =>
          have hsame : f = g := Option.some.inj hfailure
          refine ⟨last, ?_, hsame ▸ hlast⟩
          simp

namespace Crew

variable {journey : Plan.Entry → Journey} {c : Crew}

/-! ## Exchanges and events -/

theorem mem_exchanges {entry : Plan.Entry} {x : Exchange} {events : List Event}
    (hexchange : (entry, x) ∈ c.exchanges journey events) :
    ∃ i reaction, .answer i reaction ∈ events ∧ x = ⟨x.call, reaction x.call⟩ := by
  induction events generalizing c with
  | nil => cases hexchange
  | cons event events ih =>
      rcases List.mem_append.1 hexchange with hfirst | hlater
      · cases event with
        | start i => cases hfirst
        | answer i reaction =>
            rcases hworker : c.workers[i]? with _ | _ | ⟨other, call, next⟩ | _
            case some.waiting =>
              have hsame : entry = other ∧ x = ⟨call, reaction call⟩ := by
                simpa [exchange, hworker] using hfirst
              exact ⟨i, reaction, List.mem_cons_self, by rw [hsame.2]⟩
            all_goals simp [exchange, hworker] at hfirst
      · rcases ih hlater with ⟨i, reaction, hevent, hreaction⟩
        exact ⟨i, reaction, List.mem_cons_of_mem event hevent, hreaction⟩

theorem mem_of_mem_part {α : Type} {entry : Plan.Entry} {pairs : List (Plan.Entry × α)} {a : α}
    (ha : a ∈ entry.part pairs) : (entry, a) ∈ pairs := by
  rcases List.mem_filterMap.1 ha with ⟨⟨other, b⟩, hpair, hsome⟩
  by_cases hsame : other = entry
  · rw [if_pos hsame, Option.some.injEq] at hsome
    exact hsame ▸ hsome ▸ hpair
  · rw [if_neg hsame] at hsome
    cases hsome

/-! ## Failures -/

variable {r : Registry} {p : Plan} {workers : Nat} {events : List Event}

/-- The failure of a run was the answer to some call. -/
theorem failure_answered
    (hfound : p.FoundIn r)
    {f : Failure}
    (hresult : ((assemble p workers).run (Journey.ofEntry r) events).result = .error f) :
    ∃ (i : Nat) (reaction : Reaction) (call : Call),
      .answer i reaction ∈ events ∧ reaction call = .error f := by
  have hfailure : ((assemble p workers).run (Journey.ofEntry r) events).ledger.failure = some f := by
    unfold result at hresult
    split at hresult
    · rename_i g hg
      rw [hg, Except.error.inj hresult]
    · cases hresult
  rcases exists_recorded_of_failure hfailure with ⟨entry, hnote⟩
  rcases hfound entry (mem_entries_of_recorded hnote) with ⟨scenario, hscenario⟩
  -- The life of the page of the entry ended with that failure.
  have hlife := ((kept_run (Journey.ofEntry r) p workers events).life hscenario hnote).1
  rcases hlife.exists_failure with ⟨x, hx, hfailed⟩
  rcases mem_exchanges (mem_of_mem_part hx) with ⟨i, reaction, hevent, hanswer⟩
  refine ⟨i, reaction, x.call, hevent, ?_⟩
  rw [hanswer, Exchange.failure?] at hfailed
  split at hfailed
  · cases hfailed
  · rename_i g hg
    exact hg.trans (congrArg Except.error (Option.some.inj hfailed))

/-- Nothing that is answered is a matter of what was asked for. -/
def Event.Blameless : Event → Prop
  | start _ => True
  | answer _ reaction => ∀ call : Call, Attempt.Blameless (reaction call)

theorem result_blameless
    (hfound : p.FoundIn r)
    (hevents : ∀ event ∈ events, event.Blameless) :
    ((assemble p workers).run (Journey.ofEntry r) events).result.Blameless := by
  intro f hresult
  rcases failure_answered hfound hresult with ⟨i, reaction, call, hevent, hanswer⟩
  exact hevents _ hevent call f hanswer

end Crew

/-! ## In the course of time -/

namespace Clock

/-- A response that is no failure for which what was asked for is to blame. -/
def Response.Blameless (r : Response) : Prop := ∀ f, r.failure = some f → f.isConfiguration = false

theorem Response.blameless_reaction {r : Response} (h : r.Blameless) (call : Call) :
    Attempt.Blameless (r.reaction call) := by
  intro f hf
  cases hfailure : r.failure with
  | some g =>
      have hsame : g = f := by simpa [reaction, hfailure] using hf
      exact hsame ▸ h g hfailure
  | none => cases call <;> simp [reaction, hfailure] at hf

end Clock

namespace Run

/-- A run in a sound world gives what its crew gives after blameless events, and leaves the world
sound. -/
theorem blameless_events_clocked {ω : Type} (run : Run) {world : Clock.World ω} {sound : ω → Prop}
    (hworld : Clock.Yields world Clock.Response.Blameless sound) (processors : Nat) (start : ω)
    (hstart : sound start) :
    ∃ events, (∀ event ∈ events, event.Blameless) ∧
      (run.clocked world processors start).1 =
        ((run.crew processors).run run.journey events).result.map Outcome.mk ∧
      sound (run.clocked world processors start).2 := by
  rcases run.events_clocked hworld processors start hstart with
    ⟨events, hevents, hresult, hsound⟩
  refine ⟨events, ?_, hresult, hsound⟩
  intro event hevent
  have hfrom := hevents event hevent
  cases event with
  | start i => trivial
  | answer i reaction =>
      rcases hfrom with ⟨response, hblameless, rfl⟩
      exact Clock.Response.blameless_reaction hblameless

end Run
end LayoutAudit
