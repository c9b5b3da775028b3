import LayoutAudit.Json.Printer
import LayoutAudit.Session.Peer
import LayoutAudit.Text.Character

/-!
# Session.Understudy — a driver that says what it was given to say

It stands in for a driver with a browser: it notes each command and answers it, either as usual or
as it was told to for the request of that number.

* `Session.Cue` — what it was told for a request;
* `Session.Understudy` — all that it was told;
* `Understudy.Memory` — what it notes;
* `Understudy.peer`, `Understudy.pipe` — the driver as a run talks to it, and the way to it;
* `Understudy.decode` — reads what an understudy is told.
-/

namespace LayoutAudit
namespace Session

open Json (Value)
open Wire (Node Reading Record)

/-- So many bytes go into a pipe that nobody reads from. -/
def pipeSize : Nat := 65536

/-- The bytes of a line, with its end. -/
def bytes (line : String) : Nat := line.utf8ByteSize + 1

/-- What to do about a request. -/
structure Cue where
  /-- Lines that come before the reply. -/
  before : List String
  /-- Ends without a reply. -/
  ends : Bool
  /-- A reply in place of the usual one. -/
  reply : Option Value
  deriving Inhabited

namespace Cue

def fields : Record Cue :=
  ((Record.optional "before" (Node.asList Node.asText) []).and <|
    (Record.optional "exit" Node.asBool false).and <|
    (Record.optional "reply" (Node.asOption Node.toValue) none)).map
  fun (before, ends, reply) => ⟨before.flatMap (·.splitOn "\n"), ends, reply⟩

def decode (n : Node) : Reading Cue := fields.decode n

def repliesTo (id : Nat) (line : String) : Bool :=
  match Reply.read line with
  | .ok reply => reply.id == id
  | .error _ => false

/-- Does it reply to the request, and then have more to write than goes into a pipe?  While it
writes that, the next command comes. -/
def lingers (cue : Cue) (id : Nat) : Bool :=
  match cue.before.dropWhile (!repliesTo id ·) with
  | [] => false
  | _ :: rest => pipeSize < rest.foldl (fun count line => count + bytes line) 0

end Cue

structure Understudy where
  /-- Is there a driver at all? -/
  installed : Bool
  cues : List (Nat × Cue)
  /-- What is measured, one after the other; the last is measured ever after. -/
  measurements : List Value
  deriving Inhabited

namespace Understudy

def numberedCue (entry : String × Cue) : Reading (Nat × Cue) := do
  return (← Node.expect (Text.digits? 10 entry.1.toList), entry.2)

/-- The fields of the wire form.  A driver that is not there is told by an exit status. -/
def fields : Record Understudy :=
  ((Record.optional "npx_exit" (Node.asNatural 256) 0).and <|
    (Record.optional "override"
      (fun n => do (← Node.asEntries Cue.decode n).mapM numberedCue) []).and <|
    (Record.optional "measurements" (Node.asList Node.toValue) [])).map
  fun (status, cues, measurements) => ⟨status == 0, cues, measurements⟩

def decode (n : Node) : Reading Understudy := fields.decode n

structure Memory where
  /-- The commands, with what it was started with in front. -/
  told : List Value
  opened : Nat
  measured : Nat
  /-- It reads no more commands, and ends when it has written what it has to. -/
  leaving : Bool
  deriving Inhabited

def started (options : LaunchOptions) : Memory := ⟨[options.arguments], 0, 0, false⟩

def measurement? (u : Understudy) (n : Nat) : Option Value :=
  u.measurements[min n (u.measurements.length - 1)]?

def usual (u : Understudy) (command : Command) (m : Memory) : List (String × Value) × Memory :=
  match command with
  | .openPage _ => ([("page", .nat (m.opened + 1))], { m with opened := m.opened + 1 })
  | .measure _ _ =>
      (((u.measurement? m.measured).map fun v => ("measurement", v)).toList,
        { m with measured := m.measured + 1 })
  | _ => ([], m)

/-- A reply with a number, if it has none of its own. -/
def numbered (id : Nat) : Value → Value
  | .object members =>
      if members.any (·.1 == "id") then .object members else .object (members ++ [("id", .nat id)])
  | v => v

def answer (u : Understudy) (id : Nat) (command : Command) (m : Memory) : Said × Memory :=
  let cue := (u.cues.lookup id).getD default
  if cue.ends then (⟨cue.before, !cue.lingers id⟩, { m with leaving := cue.lingers id })
  else
    match cue.reply with
    | some reply => (⟨cue.before ++ [(numbered id reply).compact], false⟩, m)
    | none =>
        let (more, m) := u.usual command m
        let reply := Value.object ([("id", .nat id), ("ok", .bool true)] ++ more)
        (⟨cue.before ++ [reply.compact], false⟩, m)

def peer (u : Understudy) : Peer Memory where
  start? := fun options => if u.installed then some (started options) else none
  respond := fun id command m =>
    if m.leaving then (⟨[], true⟩, m)
    else u.answer id command { m with told := m.told ++ [command.encode id] }
  leave := id

/-- The way to it: what does not go into the pipe is not written when it leaves. -/
def pipe : Pipe Memory := fun line m =>
  if m.leaving && pipeSize < bytes line then some "Broken pipe (os error 32)" else none

end Understudy
end Session
end LayoutAudit
