import LayoutAudit.Run.Clock
import LayoutAudit.Server.Ports
import LayoutAudit.Session.Page

/-!
# Run.Performance — a run with a server and a browser of its own

If no site is given, a directory is served.  Then a browser is launched, the plan is carried out,
the browser is left and the server is stopped, whatever went wrong in between.

* `Run.Surroundings` — what can be started, and what comes of it;
* `Run.Milestone` — what was started and stopped;
* `Run.perform` — a run from its start to its end;
* `Session.call`, `Session.world` — the calls of a run, carried out in a session.
-/

namespace LayoutAudit
namespace Session

variable {σ : Type}

/-- What comes of an errand, as the answer to a call.  A command takes its time. -/
def responseOf {α : Type} (errand : Errand α) (result : Attempt α) (m : Measurement) :
    Clock.Response :=
  let delay := match errand with
    | .settled _ => 0
    | .told _ _ => 1
  match result with
  | .ok _ => ⟨delay, none, m⟩
  | .error f => ⟨delay, some f, m⟩

def call (peer : Peer σ) (site : String) (call : Call) (page : Option Page) (s : Session σ)
    (pipe : Pipe σ := .wide) : Clock.Response × Option Page × Session σ :=
  match call, page with
  | .openPage viewport, _ =>
      let errand := Page.opening viewport
      let (result, s) := errand.carryOut peer s pipe
      (responseOf errand result default, result.toOption, s)
  | .navigate path, some p =>
      let errand := p.navigating site path
      let (result, s) := errand.carryOut peer s pipe
      (responseOf errand result default, some p, s)
  | .measure spec, some p =>
      let errand := p.measuring spec
      let (result, s) := errand.carryOut peer s pipe
      (responseOf errand result (result.toOption.getD default), some p, s)
  | .close, some p =>
      let (errand, p) := p.closing
      let (result, s) := errand.carryOut peer s pipe
      (responseOf errand result default, some p, s)
  | _, none => (⟨0, some (.driver .noPage), default⟩, none, s)

structure Floor (σ : Type) where
  session : Session σ
  pages : List (Option Page)

def world (peer : Peer σ) (site : String) (pipe : Pipe σ := .wide) : Clock.World (Floor σ) :=
  fun _ worker _ c floor =>
  let (response, page, s) := call peer site c (floor.pages[worker]?.getD none) floor.session pipe
  (response, ⟨s, floor.pages.set worker page⟩)

end Session

namespace Run

/-- What can be started, and what comes of it. -/
structure Surroundings (σ : Type) where
  /-- Serves a directory and gives the address of the site. -/
  serve : (directory : String) → (preferred attempts : Nat) → σ → Attempt String × σ
  launch : LaunchOptions → σ → Attempt Unit × σ
  /-- Carries out the plan. -/
  carryOut : Run → LaunchOptions → σ → Attempt Outcome × σ
  /-- Leaves the browser. -/
  leave : σ → σ
  /-- Stops the server. -/
  stop : σ → σ

inductive Milestone where
  | served
  | launched
  | carriedOut
  | left
  | stopped
  deriving DecidableEq, Repr

def launchOptions (run : Run) (site : String) : LaunchOptions :=
  ⟨site, run.settings.browser, run.settings.headless, run.settings.timeout⟩

variable {σ : Type}

def performAt (around : Surroundings σ) (run : Run) (site : String) (s : σ) :
    Attempt Outcome × List Milestone × σ :=
  let options := run.launchOptions site
  match around.launch options s with
  | (.error f, s) => (.error f, [], s)
  | (.ok (), s) =>
      let (result, s) := around.carryOut run options s
      (result, [.launched, .carriedOut, .left], around.leave s)

def perform (around : Surroundings σ) (run : Run) (s : σ) :
    Attempt Outcome × List Milestone × σ :=
  match run.settings.baseUrl, run.settings.serveDir with
  | some site, _ => performAt around run site s
  | none, some directory =>
      match around.serve directory run.settings.port run.settings.portAttempts s with
      | (.error f, s) => (.error f, [], s)
      | (.ok site, s) =>
          let (result, milestones, s) := performAt around run site s
          (result, .served :: milestones ++ [.stopped], around.stop s)
  | none, none => (.error (.configuration .noSite), [], s)

/-- Surroundings with a driver, given what directories and ports there are. -/
def surroundings (peer : Session.Peer σ) (isDirectory : String → Bool)
    (probe : Nat → Server.PortState) (processors : Nat) (pipe : Session.Pipe σ := .wide) :
    Surroundings (Option (Session σ)) where
  serve := fun directory preferred attempts s =>
    (Server.serve isDirectory probe directory preferred attempts, s)
  launch := fun options _ => Session.launch peer options pipe
  carryOut := fun run options s =>
    match s with
    | some session =>
        let pages := List.replicate (run.workers processors) none
        let (result, floor) :=
          run.clocked (Session.world peer options.baseUrl pipe) processors ⟨session, pages⟩
        (result, some floor.session)
    | none => (.error .browserMissing, none)
  leave := Option.map (Session.leave peer)
  stop := id

end Run
end LayoutAudit
