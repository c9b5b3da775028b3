import LayoutAudit.Failure
import LayoutAudit.Measurement

/-!
# Session.Reply — what a driver answers

* `Session.Reply` — an answer to the request of its number;
* `Reply.read` — reading a line; a line of any other shape is no reply;
* `Reply.outcome` — what the reply means for the request.
-/

namespace LayoutAudit
namespace Session

open Wire (Node Reading Record)

structure Reply where
  /-- The number of the request. -/
  id : Nat
  ok : Bool
  /-- Why the command was not carried out. -/
  error : Option String
  /-- The page that was opened. -/
  page : Option Nat
  measurement : Option Measurement
  deriving Inhabited

namespace Reply

def fields : Record Reply :=
  let number := Node.asNatural UInt64.size
  ((Record.required "id" number).and <|
    (Record.optional "ok" Node.asBool false).and <|
    (Record.optional "error" (Node.asOption Node.asText) none).and <|
    (Record.optional "page" (Node.asOption number) none).and <|
    (Record.optional "measurement" (Node.asOption Measurement.decode) none)).map
  fun (id, ok, error, page, measurement) => ⟨id, ok, error, page, measurement⟩

def decode (n : Node) : Reading Reply := fields.decode n

def read (line : String) : Reading Reply := (Json.Document.read line).decode decode

/-- What a driver says went wrong. -/
def fault (r : Reply) : DriverFault :=
  match r.error with
  | some message => .reported message
  | none => .refused

def outcome (r : Reply) : Attempt Reply := if r.ok then .ok r else .error (.driver r.fault)

end Reply
end Session
end LayoutAudit
