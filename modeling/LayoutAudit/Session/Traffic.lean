import LayoutAudit.Session.Page

/-!
# Session.Traffic — calls on pages, and the requests that they make

Several workers call on their pages at once.  A call either comes to its end at once, or it makes a
request, and comes to its end with it.

* `Traffic.Call`, `Traffic.Fruit` — what can be called for, and what comes of it if all goes well;
* `Traffic.Job` — a call that makes a request;
* `Traffic.Event`, `Traffic.step`, `Traffic.run` — everything that can happen, in whatever order;
* `Traffic.Ends` — how calls come to their end.
-/

namespace LayoutAudit
namespace Session

namespace Errand

variable {α β : Type}

def map (f : α → β) : Errand α → Errand β
  | settled result => settled (result.map f)
  | told command conclude => told command fun answer => (conclude answer).map f

end Errand

namespace Traffic

/-- A call.  A page is named by the request that opened it. -/
inductive Call where
  | openPage (viewport : Viewport)
  | navigate (page : Nat) (path : String)
  | measure (page : Nat) (spec : Spec)
  | close (page : Nat)

inductive Fruit where
  | opened (page : Page)
  | measured (measurement : Measurement)
  | done

structure Job where
  /-- The number of the request. -/
  id : Nat
  call : Call
  command : Command
  /-- The end of the call, given the end of the request. -/
  conclude : Attempt Reply → Attempt Fruit

inductive Event where
  | calls (call : Call)
  /-- Something happens to the requests. -/
  | happens (event : Requests.Event)

end Traffic

open Traffic (Fruit Job)

structure Traffic where
  /-- What has happened to the requests. -/
  course : List Requests.Event
  jobs : List Job
  /-- The calls that came to their end without a request. -/
  settled : List (Traffic.Call × Attempt Fruit)
  /-- The pages that somebody has asked to close. -/
  closed : List Nat

namespace Traffic

def start : Traffic := ⟨[], [], [], []⟩

def requests (t : Traffic) : Requests := Requests.start.run t.course

def result? (t : Traffic) (job : Job) : Option (Attempt Fruit) :=
  (t.requests.result? job.id).map job.conclude

/-- The page that a request has opened, as it was then. -/
def opened? (t : Traffic) (page : Nat) : Option Page :=
  match (t.jobs.find? (·.id == page)).bind t.result? with
  | some (.ok (.opened p)) => some p
  | _ => none

def page? (t : Traffic) (page : Nat) : Option Page :=
  (t.opened? page).map fun p => { p with closed := p.closed || t.closed.contains page }

/-- What a call has to do, and the pages that are closed from then on.  Nobody can call on a page
that has not been opened. -/
def errand? (site : String) (t : Traffic) : Call → Option (Errand Fruit × List Nat)
  | .openPage viewport => some ((Page.opening viewport).map .opened, t.closed)
  | .navigate page path =>
      (t.page? page).map fun p => ((p.navigating site path).map fun _ => .done, t.closed)
  | .measure page spec =>
      (t.page? page).map fun p => ((p.measuring spec).map .measured, t.closed)
  | .close page =>
      (t.page? page).map fun p =>
        let (errand, p) := p.closing
        (errand.map fun _ => .done, if p.closed then t.closed.insert page else t.closed)

def step (site : String) (t : Traffic) : Event → Traffic
  | .happens event => { t with course := t.course ++ [event] }
  | .calls call =>
      match t.errand? site call with
      | none => t
      | some (.settled result, closed) =>
          { t with settled := t.settled ++ [(call, result)], closed := closed }
      | some (.told command conclude, closed) =>
          let job : Job := ⟨t.requests.stages.length, call, command, conclude⟩
          { t with course := t.course ++ [.draw], jobs := t.jobs ++ [job], closed := closed }

def run (site : String) (t : Traffic) (events : List Event) : Traffic := events.foldl (step site) t

inductive Ends (t : Traffic) : Call → Attempt Fruit → Prop where
  | atOnce {call : Call} {result : Attempt Fruit} (hsettled : (call, result) ∈ t.settled) :
      Ends t call result
  | withRequest {job : Job} {result : Attempt Fruit} (hjob : job ∈ t.jobs)
      (hresult : t.result? job = some result) : Ends t job.call result

end Traffic
end Session
end LayoutAudit
