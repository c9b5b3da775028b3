import LayoutAudit.Json.Printer
import LayoutAudit.Viewport.Size

/-!
# Session.Command — what a driver is told to do

A run and its browser are two programs: the run writes commands, one on a line, and a driver beside
the browser writes replies.

* `Session.Command` — the commands;
* `Command.encode`, `Command.line` — a command as data, with the number of its request, and the line
  that gives it.
-/

namespace LayoutAudit
namespace Session

open Json (Value)

inductive Command where
  /-- Nothing but to answer. -/
  | ping
  /-- Opens a page of the size of a viewport. -/
  | openPage (viewport : Viewport)
  | goto (page : Nat) (url : String)
  | measure (page : Nat) (input : Value)
  | close (page : Nat)
  deriving Inhabited

namespace Command

/-- The members of a command, with the number of its request, sorted by name. -/
def members (id : Nat) : Command → List (String × Value)
  | ping => [("id", .nat id), ("op", .string "ping")]
  | openPage v =>
      [("height", .nat v.height), ("id", .nat id), ("op", .string "open"), ("width", .nat v.width)]
  | goto page url =>
      [("id", .nat id), ("op", .string "goto"), ("page", .nat page), ("url", .string url)]
  | measure page input =>
      [("id", .nat id), ("input", input), ("op", .string "measure"), ("page", .nat page)]
  | close page => [("id", .nat id), ("op", .string "close"), ("page", .nat page)]

def encode (id : Nat) (c : Command) : Value := .object (c.members id)

def line (id : Nat) (c : Command) : String := (c.encode id).compact

end Command
end Session
end LayoutAudit
