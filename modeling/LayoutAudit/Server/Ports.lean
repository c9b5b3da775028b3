import LayoutAudit.Failure

/-!
# Server.Ports — a free port at or after a preferred one

* `Server.PortState` — what comes of binding a port;
* `Server.candidate?`, `Server.next?` — the ports that are tried;
* `Server.findPort` — tries one port after the other.
-/

namespace LayoutAudit
namespace Server

inductive PortState where
  | free
  | inUse
  /-- The system does not allow it. -/
  | refused (reason : String)
  deriving DecidableEq, Repr

/-- One more than the last port. -/
def portBound : Nat := 65536

/-- The port that comes `i` places after the preferred one, if there is one. -/
def candidate? (preferred i : Nat) : Option Nat :=
  if preferred + i < portBound then some (preferred + i) else none

/-- The port that is tried after attempt `i`, if there is one. -/
def next? (preferred i attempts : Nat) : Option Nat :=
  if i + 1 < attempts then candidate? preferred (i + 1) else none

/-- Tries the ports from place `i` on, at most `fuel` of them.  Gives the ports that were tried, and
what came of the last one, unless all of them were in use. -/
def tryFrom (probe : Nat → PortState) (preferred i : Nat) : Nat → List Nat × Option (Attempt Nat)
  | 0 => ([], none)
  | fuel + 1 =>
      match candidate? preferred i with
      | none => ([], none)
      | some port =>
          match probe port with
          | .free => ([port], some (.ok port))
          | .refused reason => ([port], some (.error (.bind port reason)))
          | .inUse =>
              let (tried, result) := tryFrom probe preferred (i + 1) fuel
              (port :: tried, result)

def portsTried (probe : Nat → PortState) (preferred attempts : Nat) : List Nat :=
  (tryFrom probe preferred 0 attempts).1

/-- The first port that is not in use, if it can be had. -/
def findPort (probe : Nat → PortState) (preferred attempts : Nat) : Attempt Nat :=
  (tryFrom probe preferred 0 attempts).2.getD (.error (.portsExhausted preferred attempts))

def serve (isDirectory : String → Bool) (probe : Nat → PortState) (directory : String)
    (preferred attempts : Nat) : Attempt String :=
  if isDirectory directory then do
    let port ← findPort probe preferred attempts
    return "http://127.0.0.1:" ++ toString port
  else .error (.configuration (.noDirectory directory))

end Server
end LayoutAudit
