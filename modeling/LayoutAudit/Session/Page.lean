import LayoutAudit.Session.Peer
import LayoutAudit.Spec

/-!
# Session.Page — a page as a run knows it

What a run does with a page is an errand: either it is settled at once, or it takes one command and
the reply to it.

* `Session.Errand`, `Errand.carryOut` — errands, and carrying them out;
* `Session.Page` — a page that was opened;
* `Page.opening`, `Page.navigating`, `Page.measuring`, `Page.closing` — the errands of a page;
* `Page.url` — where a path is.
-/

namespace LayoutAudit
namespace Session

/-- Something to be done with a page. -/
inductive Errand (α : Type) where
  /-- Needs no command. -/
  | settled (result : Attempt α)
  /-- Needs a command, and its reply tells the result. -/
  | told (command : Command) (conclude : Attempt Reply → Attempt α)

namespace Errand

variable {α σ : Type}

def command? : Errand α → Option Command
  | settled _ => none
  | told command _ => some command

def carryOut (peer : Peer σ) (s : Session σ) (errand : Errand α) (pipe : Pipe σ := .wide) :
    Attempt α × Session σ :=
  match errand with
  | settled result => (result, s)
  | told command conclude =>
      let (answer, s) := s.ask peer command pipe
      (conclude answer, s)

end Errand

structure Page where
  id : Nat
  viewport : Viewport
  /-- Somebody has asked to close it. -/
  closed : Bool
  deriving DecidableEq, Repr, Inhabited

namespace Page

/-- Where a path is: behind the address of the site, less the slashes at its end. -/
def url (site path : String) : String :=
  String.ofList (site.toList.reverse.dropWhile (· == '/')).reverse ++ path

def opening (viewport : Viewport) : Errand Page :=
  .told (.openPage viewport) fun answer => do
    match (← answer).page with
    | some id => return ⟨id, viewport, false⟩
    | none => .error (.driver .noPage)

/-- Goes to a path, which has to begin with a slash. -/
def navigating (site path : String) (p : Page) : Errand Unit :=
  if path.toList.head? = some '/' then
    .told (.goto p.id (url site path)) fun answer =>
      match answer with
      | .ok _ => .ok ()
      | .error f => .error (.navigation path f.message)
  else .settled (.error (.navigation path "path must start with '/'"))

def measuring (spec : Spec) (p : Page) : Errand Measurement :=
  .told (.measure p.id spec.measureInput) fun answer => do
    match (← answer).measurement with
    | some m => return m
    | none => .error (.driver (.noMeasurement p.viewport))

/-- Closes a page, once. -/
def closing (p : Page) : Errand Unit × Page :=
  if p.closed then (.settled (.ok ()), p)
  else (.told (.close p.id) fun answer => answer.map fun _ => (), { p with closed := true })

end Page
end Session
end LayoutAudit
