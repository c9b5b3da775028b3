import LayoutAudit.Session.Reply

/-!
# Session.Requests — which reply belongs to which request

Requests of several workers are under way at once, and replies come in any order.  A request draws a
number, puts itself into the table of those that wait, and writes its line.  A reply takes the
request of its number out of the table.  When the output of the driver ends, the table is closed for
good, and whoever is in it will get no reply.

* `Requests.Mail` — what has come for a request;
* `Requests.Stage` — how far a request has come;
* `Requests.Event`, `Requests.step` — everything that can happen, in whatever order;
* `Requests.run`, `Requests.Reachable` — what can come of it.
-/

namespace LayoutAudit
namespace Session

namespace Requests

inductive Mail where
  /-- Nothing yet. -/
  | expected
  | delivered (reply : Reply)
  /-- Nothing will come. -/
  | dropped
  deriving Inhabited

inductive Stage where
  /-- It has a number. -/
  | drawn
  /-- It is in the table, and its line is being written. -/
  | writing (mail : Mail)
  /-- Its line is written. -/
  | waiting (mail : Mail)
  | finished (result : Attempt Reply)
  deriving Inhabited

def Stage.receive (mail : Mail) : Stage → Stage
  | writing .expected => writing mail
  | waiting .expected => waiting mail
  | stage => stage

inductive Event where
  /-- A request begins and draws its number. -/
  | draw
  /-- A request puts itself into the table. -/
  | register (id : Nat)
  /-- The line of a request has been written, or could not be for the reason given. -/
  | written (id : Nat) (refusal : Option String)
  /-- The driver writes a line. -/
  | line (text : String)
  /-- The output of the driver ends. -/
  | endOfOutput
  /-- The input of the driver is closed. -/
  | closeInput
  /-- A request looks at what has come for it. -/
  | collect (id : Nat)

end Requests

open Requests (Mail Stage Event)

/-- All requests, each at the place of its number. -/
structure Requests where
  stages : List Stage
  /-- Those that wait for a reply; `none` once no reply can come. -/
  table : Option (List Nat)
  inputOpen : Bool
  deriving Inhabited

namespace Requests

def start : Requests := ⟨[], some [], true⟩

def put (s : Requests) (id : Nat) (stage : Stage) : Requests :=
  { s with stages := s.stages.set id stage }

def release (s : Requests) (id : Nat) : Requests :=
  { s with table := s.table.map (·.filter (· != id)) }

def isWaiting (s : Requests) (id : Nat) : Bool := (s.table.getD []).contains id

/-- A request puts itself into the table, unless the table is closed. -/
def register (s : Requests) (id : Nat) : Requests :=
  match s.stages[id]?, s.table with
  | some .drawn, some ids => { s.put id (.writing .expected) with table := some (ids ++ [id]) }
  | some .drawn, none => s.put id (.finished (.error (.driver .gone)))
  | _, _ => s

/-- A request whose line cannot be written takes itself out of the table. -/
def giveUp (s : Requests) (id : Nat) (f : Failure) : Requests :=
  (s.release id).put id (.finished (.error f))

/-- The line of a request has been written, or could not be. -/
def written (s : Requests) (id : Nat) (refusal : Option String) : Requests :=
  match s.stages[id]? with
  | some (.writing mail) =>
      if s.inputOpen then
        match refusal with
        | none => s.put id (.waiting mail)
        | some reason => s.giveUp id (.system reason)
      else s.giveUp id (.driver .shutDown)
  | _ => s

/-- A reply goes to the request of its number, if that one waits. -/
def deliver (s : Requests) (reply : Reply) : Requests :=
  if s.isWaiting reply.id then
    { s.release reply.id with
      stages := s.stages.modify reply.id (Stage.receive (.delivered reply)) }
  else s

/-- A line that is no reply is passed over. -/
def readLine (s : Requests) (text : String) : Requests :=
  match Reply.read text with
  | .ok reply => s.deliver reply
  | .error _ => s

/-- The table is closed: no reply will come for the requests in it. -/
def closeTable (s : Requests) : Requests :=
  { s with
    table := none
    stages := s.stages.mapIdx fun id stage =>
      if s.isWaiting id then stage.receive .dropped else stage }

/-- A request that has got something comes to its end. -/
def collect (s : Requests) (id : Nat) : Requests :=
  match s.stages[id]? with
  | some (.waiting (.delivered reply)) => s.put id (.finished reply.outcome)
  | some (.waiting .dropped) => s.put id (.finished (.error (.driver .lost)))
  | _ => s

def step (s : Requests) : Event → Requests
  | .draw => { s with stages := s.stages ++ [.drawn] }
  | .register id => s.register id
  | .written id refusal => s.written id refusal
  | .line text => s.readLine text
  | .endOfOutput => s.closeTable
  | .closeInput => { s with inputOpen := false }
  | .collect id => s.collect id

def run (s : Requests) (events : List Event) : Requests := events.foldl step s

/-- What can come about. -/
def Reachable (s : Requests) : Prop := ∃ events, start.run events = s

/-- The result of a request that has come to its end. -/
def result? (s : Requests) (id : Nat) : Option (Attempt Reply) :=
  match s.stages[id]? with
  | some (.finished result) => some result
  | _ => none

end Requests
end Session
end LayoutAudit
