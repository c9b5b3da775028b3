import LayoutAudit.Proofs.Run.Chronicle

/-!
# Proofs.Run.Opening — a journey opens its page first

* `Journey.NeverOpens`, `Journey.OpensFirst` — the first call opens the page and no other does;
* `Journey.following_opensFirst` — whatever scenarios do with their pages;
* `Crew.Housed.run` — pages are opened for entries that have just been claimed.
-/

namespace LayoutAudit
namespace Journey

/-- No call opens a page. -/
def NeverOpens : Journey → Prop
  | finished _ => True
  | await call next => call.opensPage = false ∧ ∀ answer, (next answer).NeverOpens

/-- The first call opens a page, and no later one does. -/
def OpensFirst : Journey → Prop
  | finished _ => True
  | await call next => call.opensPage = true ∧ ∀ answer, (next answer).NeverOpens

theorem closing_neverOpens (result : Attempt (List Report)) : (closing result).NeverOpens :=
  ⟨rfl, fun _ => trivial⟩

theorem perform_neverOpens (scenario : String) (viewport : Viewport) (routine : Routine)
    (reports : List Report) : (perform scenario viewport routine reports).NeverOpens := by
  induction routine generalizing reports with
  | done result => exact closing_neverOpens _
  | navigate path next ih => exact ⟨rfl, fun answer => ih answer reports⟩
  | snapshot name spec options next ih =>
      unfold perform
      refine ⟨rfl, fun answer => ?_⟩
      cases answer with
      | ok m => exact ih _ _
      | error f => exact ih _ _

theorem following_opensFirst (routine : Plan.Entry → Attempt Routine) (entry : Plan.Entry) :
    (following routine entry).OpensFirst := by
  unfold following
  cases routine entry with
  | ok routine =>
      refine ⟨rfl, fun answer => ?_⟩
      cases answer with
      | ok _ => exact perform_neverOpens _ _ _ _
      | error f => trivial
  | error f => trivial

end Journey

/-! ## Workers -/

namespace Worker

variable {journey : Plan.Entry → Journey}

/-- The page of the worker, if it has one, is the last that it opens for its entry. -/
def Housed : Worker → Prop
  | waiting _ _ next => ∀ answer, (next answer).NeverOpens
  | _ => True

theorem housed_claimFrom (hjourney : ∀ entry, (journey entry).OpensFirst)
    (queue : List Plan.Entry) (l : Ledger) : (claimFrom journey queue l).1.Housed := by
  cases hworker : (claimFrom journey queue l).1 with
  | idle => trivial
  | waiting entry call next =>
      have hfirst := hjourney entry
      rw [journey_of_claimFrom hworker] at hfirst
      exact hfirst.2
  | stopped => trivial

theorem housed_goOn (hjourney : ∀ entry, (journey entry).OpensFirst) (entry : Plan.Entry)
    {j : Journey} (hopen : j.NeverOpens) (l : Ledger) : (goOn journey entry j l).1.Housed := by
  cases j with
  | await call next => exact hopen.2
  | finished result => exact housed_claimFrom hjourney _ _

theorem opens_claimNotes_sublist (queue : List Plan.Entry) (l : Ledger) :
    (Note.opens (claimNotes journey queue l)).Sublist
      (Note.claims (claimNotes journey queue l)) := by
  induction queue generalizing l with
  | nil => simp [claimNotes]
  | cons entry rest ih =>
      by_cases hfailed : l.failure.isSome = true
      · simp [claimNotes, hfailed]
      · cases hentry : journey entry with
        | await call next =>
            cases hopens : call.opensPage <;>
              simp [claimNotes, hfailed, hentry, Note.opens, hopens]
        | finished result =>
            have hrest := (ih (l.record entry result)).cons entry
            simpa [claimNotes, hfailed, hentry, Note.opens] using hrest

theorem opens_goOnNotes_sublist (entry : Plan.Entry) {j : Journey} (hopen : j.NeverOpens)
    (l : Ledger) :
    (Note.opens (goOnNotes journey entry j l)).Sublist
      (Note.claims (goOnNotes journey entry j l)) := by
  cases j with
  | await call next => simp [goOnNotes, Note.opens, hopen.1]
  | finished result =>
      have hclaim : (Note.opens (claimNotes journey l.queue (l.record entry result))).Sublist
          (Note.claims (claimNotes journey l.queue (l.record entry result))) :=
        opens_claimNotes_sublist _ _
      simpa [goOnNotes, Note.opens] using hclaim

end Worker

/-! ## Crews -/

namespace Crew

variable {journey : Plan.Entry → Journey} {c : Crew}

def Housed (c : Crew) : Prop := ∀ worker ∈ c.workers, worker.Housed

theorem housed_assemble (p : Plan) (workers : Nat) : (assemble p workers).Housed := by
  intro worker hworker
  rw [List.eq_of_mem_replicate hworker]
  trivial

theorem Housed.update (hhoused : c.Housed) (i : Nat) {after : Worker × Ledger}
    (hafter : after.1.Housed) : (c.update i after).Housed := by
  intro worker hworker
  rcases List.mem_or_eq_of_mem_set hworker with hother | rfl
  · exact hhoused worker hother
  · exact hafter

theorem Housed.step (hjourney : ∀ entry, (journey entry).OpensFirst) (hhoused : c.Housed)
    (event : Event) :
    (c.step journey event).Housed ∧
      (Note.opens (c.notes journey event)).Sublist (Note.claims (c.notes journey event)) := by
  have hturn := turn_step journey c event
  generalize c.notes journey event = notes, c.exchange event = said, c.step journey event = c'
    at hturn ⊢
  cases hturn with
  | begun hworker =>
      exact ⟨hhoused.update _ (Worker.housed_claimFrom hjourney _ _),
        Worker.opens_claimNotes_sublist _ _⟩
  | @answered i reaction entry call next hworker =>
      have hnext : (next (reaction call)).NeverOpens :=
        hhoused _ (List.mem_of_getElem? hworker) _
      exact ⟨hhoused.update _ (Worker.housed_goOn hjourney _ hnext _),
        Worker.opens_goOnNotes_sublist _ hnext _⟩
  | missed => exact ⟨hhoused, by simp [Note.opens]⟩

theorem Housed.run (hjourney : ∀ entry, (journey entry).OpensFirst) (hhoused : c.Housed)
    (events : List Event) :
    (c.run journey events).Housed ∧
      (Note.opens (c.story journey events)).Sublist (Note.claims (c.story journey events)) := by
  induction events generalizing c with
  | nil => exact ⟨hhoused, by simp [story]⟩
  | cons event events ih =>
      rcases hhoused.step hjourney event with ⟨hstep, hnotes⟩
      rcases ih hstep with ⟨hrun, hstory⟩
      refine ⟨hrun, ?_⟩
      simpa [story] using hnotes.append hstory

end Crew
end LayoutAudit
