import LayoutAudit.Host.Pages
import LayoutAudit.Json.Printer
import LayoutAudit.Measurement
import LayoutAudit.Reference
import LayoutAudit.Session.Command

/-!
# Host.Handler — how a driver carries out commands

The driver holds the pages.  A command is carried out up to the first thing that the browser has to
do for it; when that has settled the driver goes on with the command, until it can answer.  In the
meantime other commands are carried out.

* `Host.Task`, `Host.Result` — what the browser does for a command, and what comes of it;
* `Host.Window` — what the driver keeps of an open page;
* `Host.Answer` — the answer to a command;
* `Host.Deed` — what the driver does next about a command;
* `Handler.handle`, `Handler.settle` — a command comes, and the browser is done with a task;
* `Handler.step`, `Handler.run`, `Handler.deeds` — everything that can happen, in whatever order.
-/

namespace LayoutAudit
namespace Host

open Json (Value)
open Session (Command)

/-- What the browser does.  Contexts and pages are given as the browser knows them. -/
inductive Task (β : Type) where
  | newContext (width height : Nat)
  | newPage (context : β)
  | goto (page : β) (url : String)
  | measure (page : β) (input : Value)
  | closeContext (context : β)
  deriving Inhabited

inductive Result (β : Type) where
  /-- The browser gives a context or a page. -/
  | gave (thing : β)
  | measured (measurement : Value)
  | done
  | failed (message : String)
  deriving Inhabited

/-- An open page, and the context in which it is alone. -/
@[ext]
structure Window (β : Type) where
  context : β
  page : β
  deriving Inhabited

inductive Answer where
  | done
  | opened (page : Nat)
  | measured (measurement : Value)
  | failed (message : String)
  deriving Inhabited

namespace Answer

/-- An answer as data, with the number of its request. -/
def encode (id : Nat) (a : Answer) : Value :=
  let members (ok : Bool) (more : List (String × Value)) : Value :=
    .object ([("id", .nat id), ("ok", .bool ok)] ++ more)
  match a with
  | done => members true []
  | opened page => members true [("page", .nat page)]
  | measured m => members true [("measurement", m)]
  | failed message => members false [("error", .string message)]

def line (id : Nat) (a : Answer) : String := (a.encode id).compact

end Answer

/-- What the driver does next about a command. -/
inductive Deed (β : Type) where
  /-- It asks the browser for something. -/
  | asks (task : Task β)
  /-- It is done with the command. -/
  | answers (answer : Answer)
  deriving Inhabited

inductive Event (β : Type) where
  /-- A command comes, with the number of its request. -/
  | told (id : Nat) (command : Command)
  /-- The browser is done with what it was asked for on behalf of a request. -/
  | settled (id : Nat) (result : Result β)

def Event.id {β : Type} : Event β → Nat
  | told id _ => id
  | settled id _ => id

structure Handler (β : Type) where
  pages : Pages (Window β)
  /-- The tasks that have not settled, by the number of their request. -/
  tasks : List (Nat × Task β)
  deriving Inhabited

namespace Handler

variable {β : Type}

def start : Handler β := ⟨.none, []⟩

def assign (h : Handler β) (id : Nat) (task : Task β) : Handler β :=
  { h with tasks := h.tasks ++ [(id, task)] }

/-- The task of a request is over. -/
def relieve (h : Handler β) (id : Nat) : Handler β :=
  { h with tasks := h.tasks.filter (·.1 != id) }

def unknownPage (number : Nat) : Answer := .failed ("unknown page " ++ toString number)

/-- A command comes: either it is answered at once, or the browser gets a task. -/
def handle (h : Handler β) (id : Nat) : Command → Deed β × Handler β
  | .ping => (.answers .done, h)
  | .openPage v =>
      (.asks (.newContext v.width v.height), h.assign id (.newContext v.width v.height))
  | .goto number url =>
      match h.pages.find? number with
      | some window => (.asks (.goto window.page url), h.assign id (.goto window.page url))
      | none => (.answers (unknownPage number), h)
  | .measure number input =>
      match h.pages.find? number with
      | some window => (.asks (.measure window.page input), h.assign id (.measure window.page input))
      | none => (.answers (unknownPage number), h)
  | .close number =>
      match h.pages.find? number with
      | some window =>
          let h := { h with pages := h.pages.remove number }
          (.asks (.closeContext window.context), h.assign id (.closeContext window.context))
      | none => (.answers .done, h)

/-- The browser is done with the task of a request.  What is not a result of that task does not
count. -/
def settle (h : Handler β) (id : Nat) (result : Result β) : Option (Deed β) × Handler β :=
  match h.tasks.lookup id, result with
  | some _, .failed message => (some (.answers (.failed message)), h.relieve id)
  | some (.newContext _ _), .gave context =>
      (some (.asks (.newPage context)), (h.relieve id).assign id (.newPage context))
  | some (.newPage context), .gave page =>
      let (number, pages) := h.pages.add ⟨context, page⟩
      (some (.answers (.opened number)), { h.relieve id with pages := pages })
  | some (.measure _ _), .measured m => (some (.answers (.measured m)), h.relieve id)
  | some (.goto _ _), .done => (some (.answers .done), h.relieve id)
  | some (.closeContext _), .done => (some (.answers .done), h.relieve id)
  | _, _ => (none, h)

def step (h : Handler β) : Event β → Option (Deed β) × Handler β
  | .told id command => (some (h.handle id command).1, (h.handle id command).2)
  | .settled id result => h.settle id result

def run (h : Handler β) (events : List (Event β)) : Handler β :=
  events.foldl (fun h event => (h.step event).2) h

/-- Everything that the driver does, in order, by the number of the request that it is about. -/
def deeds (h : Handler β) : List (Event β) → List (Nat × Deed β)
  | [] => []
  | event :: events =>
      ((h.step event).1.toList.map (event.id, ·)) ++ (h.step event).2.deeds events

end Handler
end Host
end LayoutAudit
