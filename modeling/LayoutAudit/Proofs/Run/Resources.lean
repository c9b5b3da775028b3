import LayoutAudit.Proofs.Run.Completion
import LayoutAudit.Run.Performance

/-!
# Proofs.Run.Resources — what a run starts it also stops

A run serves a directory or not, launches a browser, carries out its plan, leaves the browser and
stops serving.  Each of these can fail.

* `Run.Act`, `Run.acts` — everything that a run does with its surroundings, in order;
* `Run.Course` — the courses that a run can take;
* `Run.course_perform` — every run takes one of them;
* `Session.Heard`, `Session.Obeys` — what a driver hears in the course of a session;
* `Run.heard_perform` — once it is launched a driver hears commands, until it is left;
* `Run.what_is_started_is_stopped` — the laws of starting and stopping.
-/

namespace LayoutAudit
namespace Run

/-! ## What a run does with its surroundings -/

/-- Something that a run does with its surroundings, and what comes of it. -/
inductive Act where
  | serves (directory : String) (preferred attempts : Nat) (result : Attempt String)
  | launches (options : LaunchOptions) (result : Attempt Unit)
  | carriesOut (result : Attempt Outcome)
  | leaves
  | stops

inductive Act.Kind where
  | serve
  | launch
  | carryOut
  | leave
  | stop
  deriving DecidableEq

namespace Act

def kind : Act → Kind
  | serves _ _ _ _ => .serve
  | launches _ _ => .launch
  | carriesOut _ => .carryOut
  | leaves => .leave
  | stops => .stop

def milestone? : Act → Option Milestone
  | serves _ _ _ (.ok _) => some .served
  | launches _ (.ok _) => some .launched
  | carriesOut _ => some .carriedOut
  | leaves => some .left
  | stops => some .stopped
  | _ => none

end Act

variable {σ : Type}

/-- Surroundings that note what is done with them. -/
def Surroundings.noted (around : Surroundings σ) : Surroundings (σ × List Act) where
  serve := fun directory preferred attempts (s, acts) =>
    let (result, s) := around.serve directory preferred attempts s
    (result, s, acts ++ [.serves directory preferred attempts result])
  launch := fun options (s, acts) =>
    let (result, s) := around.launch options s
    (result, s, acts ++ [.launches options result])
  carryOut := fun run options (s, acts) =>
    let (result, s) := around.carryOut run options s
    (result, s, acts ++ [.carriesOut result])
  leave := fun (s, acts) => (around.leave s, acts ++ [.leaves])
  stop := fun (s, acts) => (around.stop s, acts ++ [.stops])

def acts (run : Run) (around : Surroundings σ) (s : σ) : List Act :=
  (run.perform around.noted (s, [])).2.2.2

/-! ## The courses of a run -/

/-- The courses from the launch on, with the site at hand. -/
inductive CourseAt (run : Run) (site : String) : Attempt Outcome → List Act → Prop where
  | unlaunched {f : Failure} :
      CourseAt run site (.error f) [.launches (run.launchOptions site) (.error f)]
  | carriedOut {result : Attempt Outcome} :
      CourseAt run site result
        [.launches (run.launchOptions site) (.ok ()), .carriesOut result, .leaves]

/-- The courses that a run can take, with their results. -/
inductive Course (run : Run) : Attempt Outcome → List Act → Prop where
  | nowhere (hsite : run.settings.baseUrl = none) (hdirectory : run.settings.serveDir = none) :
      Course run (.error (.configuration .noSite)) []
  | given {site : String} {result : Attempt Outcome} {acts : List Act}
      (hsite : run.settings.baseUrl = some site) (hcourse : CourseAt run site result acts) :
      Course run result acts
  | unserved {directory : String} {f : Failure} (hsite : run.settings.baseUrl = none)
      (hdirectory : run.settings.serveDir = some directory) :
      Course run (.error f)
        [.serves directory run.settings.port run.settings.portAttempts (.error f)]
  | served {directory site : String} {result : Attempt Outcome} {acts : List Act}
      (hsite : run.settings.baseUrl = none) (hdirectory : run.settings.serveDir = some directory)
      (hcourse : CourseAt run site result acts) :
      Course run result
        (.serves directory run.settings.port run.settings.portAttempts (.ok site) ::
          acts ++ [.stops])

/-- With the site at hand a run takes one of the courses.  Noting it makes no difference. -/
theorem courseAt_performAt (around : Surroundings σ) (run : Run) (site : String) (s : σ)
    (before : List Act) :
    ∃ acts, CourseAt run site (performAt around run site s).1 acts ∧
      (performAt around run site s).2.1 = acts.filterMap Act.milestone? ∧
      performAt around.noted run site (s, before) =
        ((performAt around run site s).1, (performAt around run site s).2.1,
          (performAt around run site s).2.2, before ++ acts) := by
  rcases hlaunch : around.launch (run.launchOptions site) s with ⟨f | ⟨⟩, later⟩
  · have hperform : performAt around run site s = (.error f, [], later) := by
      simp only [performAt, hlaunch]
    rw [hperform]
    exact ⟨[.launches _ (.error f)], .unlaunched, rfl,
      by simp [performAt, Surroundings.noted, hlaunch]⟩
  · rcases hcarry : around.carryOut run (run.launchOptions site) later with ⟨result, last⟩
    have hperform : performAt around run site s =
        (result, [.launched, .carriedOut, .left], around.leave last) := by
      simp only [performAt, hlaunch, hcarry]
    rw [hperform]
    exact ⟨[.launches _ (.ok ()), .carriesOut result, .leaves], .carriedOut, rfl,
      by simp [performAt, Surroundings.noted, hlaunch, hcarry]⟩

/-- A run takes one of its courses, and says what it does.  Noting it makes no difference. -/
theorem course_perform (around : Surroundings σ) (run : Run) (s : σ) :
    Course run (run.perform around s).1 (run.acts around s) ∧
      (run.perform around s).2.1 = (run.acts around s).filterMap Act.milestone? ∧
      run.perform around.noted (s, []) =
        ((run.perform around s).1, (run.perform around s).2.1, (run.perform around s).2.2,
          run.acts around s) := by
  -- Three things can fail, one after the other: to find a site, to serve, and to launch.
  rcases hsite : run.settings.baseUrl with _ | site
  · rcases hdirectory : run.settings.serveDir with _ | directory
    · have hperform {τ : Type} (others : Surroundings τ) (start : τ) :
          run.perform others start = (.error (.configuration .noSite), [], start) := by
        simp only [perform, hsite, hdirectory]
      rw [acts, hperform, hperform]
      exact ⟨.nowhere hsite hdirectory, rfl, rfl⟩
    · rcases hserve : around.serve directory run.settings.port run.settings.portAttempts s with
        ⟨f | site, later⟩
      · have hperform : run.perform around s = (.error f, [], later) := by
          simp only [perform, hsite, hdirectory, hserve]
        have hnoted : run.perform around.noted (s, []) = (.error f, [], later,
            [.serves directory run.settings.port run.settings.portAttempts (.error f)]) := by
          simp only [perform, hsite, hdirectory, Surroundings.noted, hserve, List.nil_append]
        rw [acts, hnoted, hperform]
        exact ⟨.unserved hsite hdirectory, rfl, rfl⟩
      · rcases courseAt_performAt around run site later
          [.serves directory run.settings.port run.settings.portAttempts (.ok site)] with
          ⟨acts, hcourse, hmilestones, hperformed⟩
        have hperform : run.perform around s =
            ((performAt around run site later).1,
              .served :: (performAt around run site later).2.1 ++ [.stopped],
              around.stop (performAt around run site later).2.2) := by
          simp only [perform, hsite, hdirectory, hserve]
        have hnoted : run.perform around.noted (s, []) =
            ((performAt around run site later).1,
              .served :: (performAt around run site later).2.1 ++ [.stopped],
              around.stop (performAt around run site later).2.2,
              .serves directory run.settings.port run.settings.portAttempts (.ok site) ::
                acts ++ [.stops]) := by
          have hserved : around.noted.serve directory run.settings.port run.settings.portAttempts
              (s, []) = (.ok site, later,
                [.serves directory run.settings.port run.settings.portAttempts (.ok site)]) := by
            simp [Surroundings.noted, hserve]
          simp only [perform, hsite, hdirectory, hserved, hperformed]
          rfl
        rw [Run.acts, hnoted, hperform]
        refine ⟨.served hsite hdirectory hcourse, ?_, rfl⟩
        simp [hmilestones, Act.milestone?]
  · rcases courseAt_performAt around run site s [] with ⟨acts, hcourse, hmilestones, hperformed⟩
    have hperform : run.perform around s = performAt around run site s := by
      simp only [perform, hsite]
    have hnoted : run.perform around.noted (s, []) = performAt around.noted run site (s, []) := by
      simp only [perform, hsite]
    rw [Run.acts, hnoted, hperform, hperformed]
    exact ⟨.given hsite hcourse, hmilestones, rfl⟩

end Run

/-! ## What a driver hears -/

namespace Session

inductive Heard where
  | started (options : LaunchOptions)
  | told (id : Nat) (command : Command)
  | left

variable {σ : Type}

def Peer.noted (peer : Peer σ) : Peer (σ × List Heard) where
  start? := fun options => (peer.start? options).map fun driver => (driver, [.started options])
  respond := fun id command (driver, heard) =>
    let (said, driver) := peer.respond id command driver
    (said, driver, heard ++ [.told id command])
  leave := fun (driver, heard) => (peer.leave driver, heard ++ [.left])

/-- Nothing but commands has been heard since. -/
def Obeys (before after : List Heard) : Prop :=
  ∃ commands : List (Nat × Command), after = before ++ commands.map fun c => .told c.1 c.2

theorem Obeys.refl (heard : List Heard) : Obeys heard heard := ⟨[], by simp⟩

theorem Obeys.trans {first next last : List Heard} (hfirst : Obeys first next)
    (hnext : Obeys next last) : Obeys first last := by
  rcases hfirst with ⟨early, rfl⟩
  rcases hnext with ⟨late, rfl⟩
  exact ⟨early ++ late, by simp⟩

variable {peer : Peer σ} {pipe : Pipe (σ × List Heard)} {s : Session (σ × List Heard)}

theorem obeys_tell (id : Nat) (command : Command) :
    Obeys s.driver.2 (s.tell peer.noted id command pipe).driver.2 := by
  unfold tell
  split
  · split
    · exact ⟨[(id, command)], rfl⟩
    · exact .refl _
  · exact .refl _

theorem obeys_ask (command : Command) :
    Obeys s.driver.2 (s.ask peer.noted command pipe).2.driver.2 := by
  unfold ask
  dsimp only
  split
  · exact obeys_tell _ command
  · exact .refl _

theorem obeys_carryOut {α : Type} (errand : Errand α) :
    Obeys s.driver.2 (errand.carryOut peer.noted s pipe).2.driver.2 := by
  cases errand with
  | settled result => exact .refl _
  | told command conclude => exact obeys_ask command

theorem obeys_call (site : String) (c : Call) (page : Option Page) :
    Obeys s.driver.2 (call peer.noted site c page s pipe).2.2.driver.2 := by
  cases c with
  | openPage viewport => exact obeys_carryOut (Page.opening viewport)
  | navigate path =>
      cases page with
      | none => exact .refl _
      | some p => exact obeys_carryOut (p.navigating site path)
  | measure spec =>
      cases page with
      | none => exact .refl _
      | some p => exact obeys_carryOut (p.measuring spec)
  | close =>
      cases page with
      | none => exact .refl _
      | some p => exact obeys_carryOut p.closing.1

/-- Whatever is called for in a run, the driver hears nothing but commands. -/
theorem yields_obeys (site : String) (heard : List Heard) :
    Clock.Yields (world peer.noted site pipe) (fun _ => True)
      fun floor => Obeys heard floor.session.driver.2 := by
  intro time worker entry c floor hbefore
  exact ⟨trivial, hbefore.trans (obeys_call site c _)⟩

/-- A driver that is launched is started, and told some commands. -/
theorem obeys_launch (options : LaunchOptions)
    (hlaunch : (launch peer.noted options pipe).2 = some s) :
    Obeys [.started options] s.driver.2 := by
  unfold launch at hlaunch
  cases hstart : peer.start? options with
  | none => simp [Peer.noted, hstart] at hlaunch
  | some driver =>
      have hnoted : peer.noted.start? options = some (driver, [.started options]) := by
        simp [Peer.noted, hstart]
      rw [hnoted] at hlaunch
      rw [← Option.some.inj hlaunch]
      exact obeys_ask .ping

end Session

namespace Run

open Session (Heard Obeys)

variable {σ : Type} {peer : Session.Peer σ} {pipe : Session.Pipe (σ × List Heard)}

/-- A driver that is launched hears commands until it is left, and nothing after that. -/
theorem heard_performAt (isDirectory : String → Bool) (probe : Nat → Server.PortState)
    (processors : Nat) (run : Run) (site : String) {session : Session (σ × List Heard)}
    (hafter : (performAt (surroundings peer.noted isDirectory probe processors pipe) run site
      none).2.2 = some session) :
    ∃ heard, Obeys [.started (run.launchOptions site)] heard ∧
      session.driver.2 = heard ++
        if .launched ∈ (performAt (surroundings peer.noted isDirectory probe processors pipe) run
          site none).2.1 then [.left] else [] := by
  rcases hlaunch : Session.launch peer.noted (run.launchOptions site) pipe with
    ⟨f | ⟨⟩, later⟩
  · have hperform : performAt (surroundings peer.noted isDirectory probe processors pipe) run site
        none = (.error f, [], later) := by
      simp only [performAt, surroundings, hlaunch]
    rw [hperform] at hafter ⊢
    exact ⟨_, Session.obeys_launch _ ((congrArg Prod.snd hlaunch).trans hafter), by simp⟩
  · rcases Session.exists_of_launch peer.noted _ hlaunch with ⟨begun, rfl⟩
    have hbegun := Session.obeys_launch _ (congrArg Prod.snd hlaunch)
    let floor : Session.Floor (σ × List Heard) :=
      ⟨begun, List.replicate (run.workers processors) none⟩
    have hperform : (performAt (surroundings peer.noted isDirectory probe processors pipe) run site
        none).2 = ([.launched, .carriedOut, .left],
          some (Session.leave peer.noted (run.clocked (Session.world peer.noted site pipe) processors
            floor).2.session)) := by
      simp only [performAt, surroundings, hlaunch]
      rfl
    rcases run.events_clocked (Session.yields_obeys site [.started (run.launchOptions site)])
      processors floor hbegun with ⟨-, -, -, hobeys⟩
    rw [hperform] at hafter ⊢
    rw [← Option.some.inj hafter]
    exact ⟨_, hobeys, rfl⟩

/-- The same of a whole run, with whatever site it finds. -/
theorem heard_perform (isDirectory : String → Bool) (probe : Nat → Server.PortState)
    (processors : Nat) (run : Run) {session : Session (σ × List Heard)}
    (hafter : (run.perform (surroundings peer.noted isDirectory probe processors pipe) none).2.2 =
      some session) :
    ∃ site heard, Obeys [.started (run.launchOptions site)] heard ∧
      session.driver.2 = heard ++
        if .launched ∈
            (run.perform (surroundings peer.noted isDirectory probe processors pipe) none).2.1
          then [.left] else [] := by
  generalize haround : surroundings peer.noted isDirectory probe processors pipe = around at *
  have hat (site : String) (hthere : (performAt around run site none).2.2 = some session) :
      ∃ heard, Obeys [.started (run.launchOptions site)] heard ∧ session.driver.2 = heard ++
        if .launched ∈ (performAt around run site none).2.1 then [.left] else [] := by
    subst haround
    exact heard_performAt isDirectory probe processors run site hthere
  rcases hsite : run.settings.baseUrl with _ | site
  · rcases hdirectory : run.settings.serveDir with _ | directory
    · simp [perform, hsite, hdirectory] at hafter
    · -- Serving and stopping are nothing to the driver.
      have hserve : around.serve directory run.settings.port run.settings.portAttempts none =
          (Server.serve isDirectory probe directory run.settings.port run.settings.portAttempts,
            none) := by rw [← haround]; rfl
      have hstop : around.stop = id := by rw [← haround]; rfl
      rcases hserved : Server.serve isDirectory probe directory run.settings.port
        run.settings.portAttempts with f | site
      · simp [perform, hsite, hdirectory, hserve, hserved] at hafter
      · simp only [perform, hsite, hdirectory, hserve, hserved, hstop, id] at hafter ⊢
        rcases hat site hafter with ⟨heard, hobeys, hheard⟩
        exact ⟨site, heard, hobeys, by simpa using hheard⟩
  · simp only [perform, hsite] at hafter ⊢
    exact ⟨site, hat site hafter⟩

/-! ## The laws of starting and stopping -/

section

variable {run : Run} {result : Attempt Outcome} {acts : List Act}

/-- With the site at hand a browser is launched for it, and nothing is served or stopped. -/
theorem CourseAt.launches {site : String} (h : CourseAt run site result acts) {act : Act}
    (hin : act ∈ acts) :
    (∃ launched, act = .launches (run.launchOptions site) launched) ∨
      act = .carriesOut result ∨ act = .leaves := by
  cases h with
  | unlaunched => exact .inl ⟨_, List.mem_singleton.1 hin⟩
  | carriedOut =>
      simp only [List.mem_cons, List.not_mem_nil, or_false] at hin
      exact hin.imp_left fun hact => ⟨_, hact⟩

namespace Course

/-- Without a site and a directory nothing is started. -/
theorem nothing (h : Course run result acts) (hnoSite : run.settings.baseUrl = none)
    (hnoDirectory : run.settings.serveDir = none) : acts = [] := by
  cases h with
  | nowhere => rfl
  | unserved hsite hdirectory => cases hdirectory.symm.trans hnoDirectory
  | given hsite hat => cases hsite.symm.trans hnoSite
  | served hsite hdirectory hat => cases hdirectory.symm.trans hnoDirectory

/-- If serving fails, nothing else is started. -/
theorem serves (h : Course run result acts) {directory : String} {preferred attempts : Nat}
    {served : Attempt String} (hin : .serves directory preferred attempts served ∈ acts) :
    run.settings.serveDir = some directory ∧ preferred = run.settings.port ∧
      attempts = run.settings.portAttempts ∧
      ∀ f, served = .error f →
        acts = [.serves directory preferred attempts served] ∧ result = .error f := by
  cases h with
  | nowhere => cases hin
  | unserved hsite hdirectory =>
      cases List.mem_singleton.1 hin
      refine ⟨hdirectory, rfl, rfl, ?_⟩
      rintro f ⟨⟩
      exact ⟨rfl, rfl⟩
  | given hsite hat => rcases hat.launches hin with ⟨_, hact⟩ | hact | hact <;> cases hact
  | served hsite hdirectory hat =>
      rcases List.mem_append.1 hin with hbefore | hlast
      · rcases List.mem_cons.1 hbefore with hfirst | hlater
        · cases hfirst
          exact ⟨hdirectory, rfl, rfl, fun f hf => nomatch hf⟩
        · rcases hat.launches hlater with ⟨_, hact⟩ | hact | hact <;> cases hact
      · cases List.mem_singleton.1 hlast

/-- A browser is launched for the site that is given, or that has just been served. -/
theorem launches (h : Course run result acts) {options : LaunchOptions} {launched : Attempt Unit}
    (hin : .launches options launched ∈ acts) :
    options = run.launchOptions options.baseUrl ∧
      (run.settings.baseUrl = some options.baseUrl ∨
        ∃ directory preferred attempts later,
          acts = .serves directory preferred attempts (.ok options.baseUrl) :: later) := by
  cases h with
  | nowhere => cases hin
  | unserved => cases List.mem_singleton.1 hin
  | given hsite hat =>
      rcases hat.launches hin with ⟨_, hact⟩ | hact | hact <;> cases hact
      exact ⟨rfl, .inl hsite⟩
  | served hsite hdirectory hat =>
      rcases List.mem_append.1 hin with hbefore | hlast
      · rcases List.mem_cons.1 hbefore with hfirst | hlater
        · cases hfirst
        · rcases hat.launches hlater with ⟨_, hact⟩ | hact | hact <;> cases hact
          exact ⟨rfl, .inr ⟨_, _, _, _, rfl⟩⟩
      · cases List.mem_singleton.1 hlast

/-- After a browser was launched the plan is carried out, and then the browser is left. -/
theorem leaves (h : Course run result acts) {options : LaunchOptions}
    (hin : .launches options (.ok ()) ∈ acts) :
    ∃ before after, acts = before ++ .launches options (.ok ()) ::
        .carriesOut result :: .leaves :: after ∧ (after = [] ∨ after = [.stops]) := by
  cases h with
  | nowhere => cases hin
  | unserved => cases List.mem_singleton.1 hin
  | @given site result acts hsite hat =>
      cases hat with
      | unlaunched => simp at hin
      | carriedOut =>
          have hoptions : options = run.launchOptions site := by simpa using hin
          exact ⟨[], [], by rw [hoptions]; rfl, .inl rfl⟩
  | @served directory site result acts hsite hdirectory hat =>
      cases hat with
      | unlaunched => simp at hin
      | carriedOut =>
          have hoptions : options = run.launchOptions site := by simpa using hin
          exact ⟨[_], [.stops], by rw [hoptions]; rfl, .inr rfl⟩

/-- The plan is carried out, and the browser is left, only if it was launched. -/
theorem launched_of_mem (h : Course run result acts) {kind : Act.Kind}
    (hin : kind ∈ acts.map Act.kind) (hkind : kind = .carryOut ∨ kind = .leave) :
    ∃ options, .launches options (.ok ()) ∈ acts := by
  cases h with
  | nowhere => cases hin
  | unserved => rcases hkind with rfl | rfl <;> simp [Act.kind] at hin
  | given hsite hat =>
      cases hat with
      | unlaunched => rcases hkind with rfl | rfl <;> simp [Act.kind] at hin
      | carriedOut => exact ⟨_, List.mem_cons_self⟩
  | served hsite hdirectory hat =>
      cases hat with
      | unlaunched => rcases hkind with rfl | rfl <;> simp [Act.kind] at hin
      | carriedOut => exact ⟨_, List.mem_cons_of_mem _ List.mem_cons_self⟩

/-- A server is stopped at the end, and only if it was started. -/
theorem stop_mem_iff (h : Course run result acts) :
    .stop ∈ acts.map Act.kind ↔
      ∃ directory preferred attempts site,
        .serves directory preferred attempts (.ok site) ∈ acts := by
  cases h with
  | nowhere => simp
  | unserved => simp [Act.kind]
  | given hsite hat => cases hat <;> simp [Act.kind]
  | served hsite hdirectory hat =>
      exact iff_of_true (by simp [Act.kind]) ⟨_, _, _, _, List.mem_cons_self⟩

theorem getLast?_of_stop (h : Course run result acts) (hin : .stop ∈ acts.map Act.kind) :
    acts.getLast? = some .stops := by
  cases h with
  | nowhere => cases hin
  | unserved => simp [Act.kind] at hin
  | given hsite hat => cases hat <;> simp [Act.kind] at hin
  | served hsite hdirectory hat => exact List.getLast?_concat

/-- Nothing is done twice. -/
theorem nodup_kinds (h : Course run result acts) : (acts.map Act.kind).Nodup := by
  cases h with
  | nowhere => simp
  | unserved => simp
  | given hsite hat => cases hat <;> simp [Act.kind]
  | served hsite hdirectory hat => cases hat <;> simp [Act.kind]

theorem serve_mem_iff (h : Course run result acts) :
    .serve ∈ acts.map Act.kind ↔
      run.settings.baseUrl = none ∧ run.settings.serveDir ≠ none := by
  cases h with
  | nowhere hsite hdirectory => simp [hdirectory]
  | unserved hsite hdirectory => simp [hsite, hdirectory, Act.kind]
  | given hsite hat => cases hat <;> simp [hsite, Act.kind]
  | served hsite hdirectory hat => simp [hsite, hdirectory, Act.kind]

/-- The result of a run is what comes of the plan, or the first failure to start something. -/
theorem result_eq (h : Course run result acts) :
    (acts = [] ∧ result = .error (.configuration .noSite)) ∨
      (∃ directory preferred attempts f,
        .serves directory preferred attempts (.error f) ∈ acts ∧ result = .error f) ∨
      (∃ options f, .launches options (.error f) ∈ acts ∧ result = .error f) ∨
      .carriesOut result ∈ acts := by
  cases h with
  | nowhere => exact .inl ⟨rfl, rfl⟩
  | unserved => exact .inr (.inl ⟨_, _, _, _, List.mem_cons_self, rfl⟩)
  | given hsite hat => cases hat <;> simp
  | served hsite hdirectory hat => cases hat <;> simp

end Course

end

/-- To leave the browser and to stop the server changes nothing of the result. -/
theorem perform_of_ending (around : Surroundings σ) (leave stop : σ → σ) (run : Run) (s : σ) :
    (run.perform { around with leave := leave, stop := stop } s).1 = (run.perform around s).1 := by
  have hat (site : String) (start : σ) :
      (performAt { around with leave := leave, stop := stop } run site start).1 =
        (performAt around run site start).1 := by
    unfold performAt
    dsimp only
    split <;> rfl
  unfold perform
  dsimp only
  split
  · exact hat _ s
  · split
    · rfl
    · exact hat _ _
  · rfl

/-- Whatever comes of serving, launching, carrying out the plan, leaving and stopping, with any
surroundings and any settings. -/
theorem what_is_started_is_stopped {σ : Type} (around : Surroundings σ) (run : Run) (s : σ) :
    let acts := run.acts around s
    let kinds := acts.map Act.kind
    let result := (run.perform around s).1
    -- Nothing is done twice, and what is done is said; to note it makes no difference.
    kinds.Nodup ∧ (run.perform around s).2.1 = acts.filterMap Act.milestone? ∧
    run.perform around.noted (s, []) =
      (result, (run.perform around s).2.1, (run.perform around s).2.2, acts) ∧
    -- A directory is served exactly if there is one and no site is given.  If that fails, nothing
    -- else is started.
    (.serve ∈ kinds ↔ run.settings.baseUrl = none ∧ run.settings.serveDir ≠ none) ∧
    (∀ directory preferred attempts served,
      .serves directory preferred attempts served ∈ acts →
        run.settings.serveDir = some directory ∧ preferred = run.settings.port ∧
          attempts = run.settings.portAttempts ∧
          ∀ f, served = .error f →
            acts = [.serves directory preferred attempts served] ∧ result = .error f) ∧
    -- A browser is launched for the site that is given, or that has just been served.
    (∀ options launched, .launches options launched ∈ acts →
      options = run.launchOptions options.baseUrl ∧
        (run.settings.baseUrl = some options.baseUrl ∨
          ∃ directory preferred attempts later,
            acts = .serves directory preferred attempts (.ok options.baseUrl) :: later)) ∧
    -- A browser that was launched is left once, after the plan has been carried out, and before
    -- anything is stopped.
    (∀ options, .launches options (.ok ()) ∈ acts →
      ∃ before after, acts = before ++ .launches options (.ok ()) ::
        .carriesOut result :: .leaves :: after ∧ kinds.count .leave = 1 ∧
          (after = [] ∨ after = [.stops])) ∧
    (.carryOut ∈ kinds ∨ .leave ∈ kinds → ∃ options, .launches options (.ok ()) ∈ acts) ∧
    -- A server is stopped exactly if it was started, once, and at the end.
    (.stop ∈ kinds ↔ ∃ directory preferred attempts site,
      .serves directory preferred attempts (.ok site) ∈ acts) ∧
    (.stop ∈ kinds → kinds.count .stop = 1 ∧ acts.getLast? = some .stops) ∧
    -- Without a site and a directory nothing is started.
    (run.settings.baseUrl = none → run.settings.serveDir = none → acts = []) ∧
    -- The result is what comes of the plan, or the first failure to start something, however
    -- leaving and stopping end.
    ((acts = [] ∧ result = .error (.configuration .noSite)) ∨
      (∃ directory preferred attempts f,
        .serves directory preferred attempts (.error f) ∈ acts ∧ result = .error f) ∨
      (∃ options f, .launches options (.error f) ∈ acts ∧ result = .error f) ∨
      .carriesOut result ∈ acts) ∧
    (∀ leave stop, (run.perform { around with leave := leave, stop := stop } s).1 = result) ∧
    -- With a driver, whatever it does: the plan is carried out until all workers have stopped, and
    -- the driver hears nothing but commands until it is left, and then nothing more.
    ∀ {τ : Type} (peer : Session.Peer τ) (isDirectory : String → Bool)
      (probe : Nat → Server.PortState) (processors : Nat) (pipe : Session.Pipe (τ × List Heard)),
      let driven := surroundings peer.noted isDirectory probe processors pipe
      driven.CarriesThrough run ∧
      ∀ session, (run.perform driven none).2.2 = some session →
        ∃ site heard, Obeys [.started (run.launchOptions site)] heard ∧
          session.driver.2 = heard ++
            if .launched ∈ (run.perform driven none).2.1 then [.left] else [] := by
  intro acts kinds result
  rcases course_perform around run s with ⟨hcourse, hmilestones, hnoted⟩
  refine ⟨hcourse.nodup_kinds, hmilestones, hnoted, hcourse.serve_mem_iff,
    fun _ _ _ _ hin => hcourse.serves hin, fun _ _ hin => hcourse.launches hin, ?_, ?_,
    hcourse.stop_mem_iff, ?_, ?_, hcourse.result_eq, ?_, ?_⟩
  · intro options hin
    rcases hcourse.leaves hin with ⟨before, after, hacts, hafter⟩
    have hleaves : .leaves ∈ run.acts around s := by simp [hacts]
    have hleft : .leave ∈ kinds := List.mem_map_of_mem hleaves
    exact ⟨before, after, hacts, List.count_eq_one_of_mem hcourse.nodup_kinds hleft, hafter⟩
  · rintro (hin | hin)
    · exact hcourse.launched_of_mem hin (.inl rfl)
    · exact hcourse.launched_of_mem hin (.inr rfl)
  · intro hin
    exact ⟨List.count_eq_one_of_mem hcourse.nodup_kinds hin, hcourse.getLast?_of_stop hin⟩
  · exact fun hsite hdirectory => hcourse.nothing hsite hdirectory
  · exact fun leave stop => perform_of_ending around leave stop run s
  · intro τ peer isDirectory probe processors pipe driven
    exact ⟨surroundings_carriesThrough _ isDirectory probe processors run,
      fun session hafter => heard_perform isDirectory probe processors run hafter⟩

end Run
end LayoutAudit
