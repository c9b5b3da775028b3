import LayoutAudit.Proofs.Run.Answers
import LayoutAudit.Proofs.Run.Preparation

/-!
# Proofs.Run.Configuration — what was asked for is found amiss first

Once a run has been prepared, only two things that were asked for can still be amiss: there may be no
site, or no directory to serve.  Both are found before a browser is launched.

* `Server.serve_error` — why a directory is not served;
* `Run.Surroundings.Blameless` — surroundings whose browser is not to blame the run;
* `Run.surroundings_blameless` — whatever a driver says, surroundings with a driver are such;
* `Run.configuration_failures_come_first` — a prepared run in any surroundings.
-/

namespace LayoutAudit

/-! ## Directories and ports -/

namespace Server

variable {probe : Nat → PortState} {preferred : Nat}

theorem tryFrom_blameless (i fuel : Nat) {result : Attempt Nat}
    (h : (tryFrom probe preferred i fuel).2 = some result) : result.Blameless := by
  induction fuel generalizing i with
  | zero => cases h
  | succ fuel ih =>
      unfold tryFrom at h
      split at h
      · cases h
      · split at h
        · cases h
          exact Attempt.blameless_ok _
        · cases h
          exact Attempt.blameless_error rfl
        · exact ih (i + 1) h

theorem findPort_blameless (probe : Nat → PortState) (preferred attempts : Nat) :
    (findPort probe preferred attempts).Blameless := by
  unfold findPort
  cases htried : (tryFrom probe preferred 0 attempts).2 with
  | none => exact Attempt.blameless_error rfl
  | some result => exact tryFrom_blameless 0 attempts htried

/-- If what was asked for is amiss, it is the directory. -/
theorem serve_error {isDirectory : String → Bool} {directory : String} {attempts : Nat}
    {f : Failure} (h : serve isDirectory probe directory preferred attempts = .error f)
    (hf : f.isConfiguration = true) :
    isDirectory directory = false ∧ f = .configuration (.noDirectory directory) := by
  unfold serve at h
  split at h
  · -- Only the port can fail, and that is no matter of what was asked for.
    have hblameless := (findPort_blameless probe preferred attempts).map fun port =>
      "http://127.0.0.1:" ++ toString port
    rw [hblameless f h] at hf
    cases hf
  · rename_i hno
    exact ⟨by simpa using hno, (Except.error.inj h).symm⟩

end Server

namespace Run

/-! ## Surroundings -/

/-- Surroundings in which neither launching nor any answer of the browser is a failure for which
what was asked for is to blame.  In which order the answers come is left open. -/
structure Surroundings.Blameless {σ : Type} (around : Surroundings σ) (run : Run) : Prop where
  launch : ∀ options s, (around.launch options s).1.Blameless
  carryOut : ∀ options s after, around.launch options s = (.ok (), after) →
    ∃ processors events, (∀ event ∈ events, event.Blameless) ∧
      (around.carryOut run options after).1 =
        ((run.crew processors).run run.journey events).result.map Outcome.mk

theorem yields_world {σ : Type} {pipe : Session.Pipe σ} (peer : Session.Peer σ) (site : String) :
    Clock.Yields (Session.world peer site pipe) Clock.Response.Blameless
      fun floor => floor.session.requests.Reachable := by
  intro time worker entry call floor hfloor
  exact Session.call_blameless peer site call (floor.pages[worker]?.getD none) hfloor

theorem surroundings_blameless {σ : Type} {pipe : Session.Pipe σ} (peer : Session.Peer σ)
    (isDirectory : String → Bool) (probe : Nat → Server.PortState) (processors : Nat) (run : Run) :
    (surroundings peer isDirectory probe processors pipe).Blameless run := by
  refine ⟨?_, ?_⟩
  · intro options s
    exact Session.launch_blameless peer options
  · intro options s after hlaunch
    rcases Session.exists_of_launch peer options hlaunch with ⟨session, rfl⟩
    have hsession : session.requests.Reachable :=
      Session.launch_reachable peer options (congrArg Prod.snd hlaunch)
    rcases run.blameless_events_clocked (yields_world peer options.baseUrl) processors
      ⟨session, List.replicate (run.workers processors) none⟩ hsession with
      ⟨events, hevents, hresult, -⟩
    exact ⟨processors, events, hevents, hresult⟩

/-! ## Runs from their start to their end -/

section

variable {σ : Type} {around : Surroundings σ} {run : Run} {s after : σ} {f : Failure}
  {milestones : List Milestone}

theorem performAt_blameless (haround : around.Blameless run)
    (hfound : run.plan.FoundIn run.registry)
    (site : String) (s : σ) : (performAt around run site s).1.Blameless := by
  have hlaunch := haround.launch (run.launchOptions site) s
  unfold performAt
  dsimp only
  split
  · rename_i g later hlaunched
    rw [hlaunched] at hlaunch
    exact Attempt.blameless_error (hlaunch g rfl)
  · rename_i later hlaunched
    rcases haround.carryOut _ s later hlaunched with ⟨processors, events, hevents, hresult⟩
    change (around.carryOut run (run.launchOptions site) later).1.Blameless
    rw [hresult]
    exact (Crew.result_blameless hfound hevents).map Outcome.mk

/-- If what was asked for is amiss, no browser was needed to find out. -/
theorem perform_configuration (haround : around.Blameless run)
    (hfound : run.plan.FoundIn run.registry)
    (h : run.perform around s = (.error f, milestones, after)) (hf : f.isConfiguration = true) :
    milestones = [] ∧ run.settings.baseUrl = none ∧
      ((run.settings.serveDir = none ∧ f = .configuration .noSite ∧ after = s) ∨
        ∃ directory, run.settings.serveDir = some directory ∧
          around.serve directory run.settings.port run.settings.portAttempts s =
            (.error f, after)) := by
  have hperformed (site : String) (start : σ) (hresult : (performAt around run site start).1 =
      .error f) : False := by
    have hblameless := performAt_blameless haround hfound site start
    rw [hblameless f hresult] at hf
    cases hf
  unfold perform at h
  split at h
  · rename_i site hsite
    exact (hperformed site s (congrArg Prod.fst h)).elim
  · rename_i directory hsite hdirectory
    split at h
    · rename_i g later hserved
      rcases Prod.mk.inj h with ⟨hfailure, hrest⟩
      rcases Prod.mk.inj hrest with ⟨hmilestones, hafter⟩
      rw [Except.error.inj hfailure, hafter] at hserved
      exact ⟨hmilestones.symm, hsite, .inr ⟨directory, hdirectory, hserved⟩⟩
    · rename_i site later hserved
      exact (hperformed site later (congrArg Prod.fst h)).elim
  · rename_i hsite hdirectory
    rcases Prod.mk.inj h with ⟨hfailure, hrest⟩
    rcases Prod.mk.inj hrest with ⟨hmilestones, hafter⟩
    exact ⟨hmilestones.symm, hsite,
      .inl ⟨hdirectory, (Except.error.inj hfailure).symm, hafter.symm⟩⟩

/-- Where no browser was needed, another browser makes no difference. -/
theorem perform_of_refused {other : Surroundings σ} (hserve : other.serve = around.serve)
    (hsite : run.settings.baseUrl = none)
    (h : (run.settings.serveDir = none ∧ f = .configuration .noSite ∧ after = s) ∨
      ∃ directory, run.settings.serveDir = some directory ∧
        around.serve directory run.settings.port run.settings.portAttempts s = (.error f, after)) :
    run.perform other s = (.error f, [], after) := by
  rcases h with ⟨hdirectory, rfl, rfl⟩ | ⟨directory, hdirectory, hserved⟩
  · simp only [perform, hsite, hdirectory]
  · simp only [perform, hsite, hdirectory, hserve, hserved]

end

/-- What was asked for is found amiss before a browser is launched, or not at all: by a run that was
prepared, whatever was registered, whatever its browser does and in whatever order the answers come,
as long as the browser has no such failures of its own. -/
theorem configuration_failures_come_first {settings : Settings} {r : Registry} {run : Run}
    (h : prepare settings r = .ok run) :
    -- Every scenario of the plan is found.
    (∀ entry ∈ run.plan.entries,
      ∃ scenario, run.registry.scenario entry.scenario = .ok scenario) ∧
    -- No order of answers makes what was asked for amiss.
    (∀ (workers : Nat) (events : List Crew.Event), (∀ event ∈ events, event.Blameless) →
      ∀ f, ((Crew.assemble run.plan workers).run run.journey events).result = .error f →
        f.isConfiguration = false) ∧
    -- If it is amiss nothing was begun, and all would be the same whatever a browser did.
    (∀ {σ : Type} (around : Surroundings σ), around.Blameless run →
      ∀ s f milestones after, run.perform around s = (.error f, milestones, after) →
        f.isConfiguration = true →
          milestones = [] ∧
          ∀ other : Surroundings σ, other.serve = around.serve →
            run.perform other s = run.perform around s) ∧
    -- In surroundings with a driver there has been no session, whatever the driver says.
    ∀ {σ : Type} (peer : Session.Peer σ) (isDirectory : String → Bool)
      (probe : Nat → Server.PortState) (processors : Nat),
      let around := surroundings peer isDirectory probe processors
      around.Blameless run ∧
      ∀ f milestones after, run.perform around none = (.error f, milestones, after) →
        f.isConfiguration = true →
          milestones = [] ∧ after = none ∧ settings.baseUrl = none ∧
          match settings.serveDir with
          | none => f = .configuration .noSite
          | some directory =>
              isDirectory directory = false ∧ f = .configuration (.noDirectory directory) := by
  have hfound := found_of_prepare h
  have hsettings : run.settings = settings := (exists_of_prepare h).2.2.1
  refine ⟨hfound, ?_, ?_, ?_⟩
  · intro workers events hevents
    exact Crew.result_blameless hfound hevents
  · intro σ around haround s f milestones after hperform hf
    rcases perform_configuration haround hfound hperform hf with ⟨rfl, hsite, hrefused⟩
    refine ⟨rfl, ?_⟩
    intro other hserve
    rw [hperform]
    exact perform_of_refused hserve hsite hrefused
  · intro σ peer isDirectory probe processors around
    have haround : around.Blameless run :=
      surroundings_blameless peer isDirectory probe processors run
    refine ⟨haround, ?_⟩
    intro f milestones after hperform hf
    rcases perform_configuration haround hfound hperform hf with ⟨rfl, hsite, hrefused⟩
    rw [hsettings] at hsite hrefused
    rcases hrefused with ⟨hdirectory, rfl, rfl⟩ | ⟨directory, hdirectory, hserved⟩
    · exact ⟨rfl, rfl, hsite, by rw [hdirectory]⟩
    · -- Serving leaves the state as it was, also if it fails.
      rcases Prod.mk.inj hserved with ⟨hdenied, rfl⟩
      refine ⟨rfl, rfl, hsite, ?_⟩
      rw [hdirectory]
      exact Server.serve_error hdenied hf

/-- A browser can be launched, but the directory that is to be served is missing. -/
theorem missing_directory_comes_first :
    let settings := { sampleSettings with serveDir := some "site" }
    let mute : Session.Peer Unit := ⟨fun _ => some (), fun _ _ s => (⟨[], true⟩, s), id⟩
    let around := surroundings mute (fun _ => false) (fun _ => .free) 1
    ∃ run, prepare settings .empty = .ok run ∧
      run.perform around none = (.error (.configuration (.noDirectory "site")), [], none) ∧
      (∀ other : Surroundings (Option (Session Unit)), other.serve = around.serve →
        run.perform other none = run.perform around none) ∧
      ∀ f, ((Crew.assemble run.plan 2).run run.journey
          [.start 0, .answer 0 fun _ => .error .browserMissing]).result = .error f →
        f.isConfiguration = false := by
  intro settings mute around
  have hprepare : ∃ run, prepare settings .empty = .ok run ∧
      run.perform around none = (.error (.configuration (.noDirectory "site")), [], none) :=
    ⟨_, rfl, rfl⟩
  rcases hprepare with ⟨run, hrun, hperform⟩
  rcases configuration_failures_come_first hrun with ⟨-, hevents, hsame, hdriver⟩
  have haround : around.Blameless run := (hdriver mute (fun _ => false) (fun _ => .free) 1).1
  refine ⟨run, hrun, hperform, (hsame around haround none _ _ _ hperform rfl).2, ?_⟩
  apply hevents
  intro event hevent
  rcases List.mem_cons.1 hevent with rfl | hlater
  · trivial
  · rw [List.mem_singleton.1 hlater]
    intro call
    exact Attempt.blameless_error rfl

end Run
end LayoutAudit
