import LayoutAudit.Browser.Kind
import LayoutAudit.Session.Command
import LayoutAudit.Session.Requests

/-!
# Session.Peer — talking to a driver

All that counts of a driver is what it writes when it is told a command, whether it ends with that,
and whether it can be told anything at all.

* `Session.Said`, `Session.Peer` — a driver, given by what it says;
* `Session.Pipe` — the way to a driver, which may be broken;
* `Session` — a driver and the requests that were made to it;
* `Session.ask` — makes a request and waits for the reply;
* `Session.launch`, `Session.leave` — the first and the last thing in a session.
-/

namespace LayoutAudit

namespace Session

structure Said where
  lines : List String
  /-- Its output ends after that. -/
  ends : Bool
  deriving Inhabited

structure Peer (σ : Type) where
  /-- The driver is started; `none` if there is none. -/
  start? : LaunchOptions → Option σ
  respond : (id : Nat) → Command → σ → Said × σ
  /-- The input of the driver is closed. -/
  leave : σ → σ

/-- The way to a driver in a state: why a line cannot be written to it, if it cannot. -/
def Pipe (σ : Type) := (line : String) → σ → Option String

/-- A way on which every line comes through. -/
def Pipe.wide {σ : Type} : Pipe σ := fun _ _ => none

end Session

structure Session (σ : Type) where
  requests : Session.Requests
  driver : σ

namespace Session

variable {σ : Type}

def hear (requests : Requests) (said : Said) : Requests :=
  let heard := said.lines.foldl Requests.readLine requests
  if said.ends then heard.closeTable else heard

/-- Tells the driver the command of a request that is in the table, and takes in what it says.  A
driver that a line cannot be written to has ended. -/
def tell (peer : Peer σ) (id : Nat) (command : Command) (s : Session σ)
    (pipe : Pipe σ := .wide) : Session σ :=
  if s.requests.inputOpen then
    match pipe (command.line id) s.driver with
    | none =>
        let (said, driver) := peer.respond id command s.driver
        ⟨hear (s.requests.written id none) said, driver⟩
    | some reason => { s with requests := (s.requests.written id (some reason)).closeTable }
  else { s with requests := s.requests.written id none }

/-- Makes a request and waits for the reply.  A driver that says nothing more counts as one that has
ended. -/
def ask (peer : Peer σ) (command : Command) (s : Session σ) (pipe : Pipe σ := .wide) :
    Attempt Reply × Session σ :=
  let id := s.requests.stages.length
  let s := { s with requests := (s.requests.step .draw).register id }
  let s := if s.requests.isWaiting id then s.tell peer id command pipe else s
  let s := { s with requests := s.requests.collect id }
  ((s.requests.result? id).getD (.error (.driver .lost)), s)

/-- Begins a session: there has to be a driver, and it has to answer once.  What has come of the
driver is given back also if it does not. -/
def launch (peer : Peer σ) (options : LaunchOptions) (pipe : Pipe σ := .wide) :
    Attempt Unit × Option (Session σ) :=
  match peer.start? options with
  | none => (.error .browserMissing, none)
  | some driver =>
      let (answer, s) := ask peer .ping ⟨.start, driver⟩ pipe
      (answer.map fun _ => (), some s)

/-- Ends a session: the input of the driver is closed, and the driver ends. -/
def leave (peer : Peer σ) (s : Session σ) : Session σ :=
  ⟨(s.requests.step .closeInput).closeTable, peer.leave s.driver⟩

end Session
end LayoutAudit
