import LayoutAudit.Json.Value
import LayoutAudit.Wire.Record

/-!
# Violation — one failed constraint

* `Violation` — a dotted path, a message, and a payload of details;
* `Violation.details` — payloads have their members sorted at every level;
* `Violation.under` — the same violation inside a surrounding constraint;
* `encode`, `decode` — the wire form.
-/

namespace LayoutAudit

open Json (Value)
open Wire (Node Reading Record)

mutual
/-- A value with the members of every object sorted. -/
def orderly : Value → Value
  | .array items => .array (orderlyItems items)
  | .object members => .object (Value.sorted (orderlyMembers members))
  | v => v

def orderlyItems : List Value → List Value
  | [] => []
  | v :: rest => orderly v :: orderlyItems rest

def orderlyMembers : List (String × Value) → List (String × Value)
  | [] => []
  | (k, v) :: rest => (k, orderly v) :: orderlyMembers rest
end

structure Violation where
  /-- The path of the constraint, such as `for_all[2].inside.left`. -/
  path : String
  message : String
  details : Option Value
  deriving BEq, Inhabited

namespace Violation

def plain (path message : String) : Violation := ⟨path, message, none⟩

def detailed (path message : String) (details : List (String × Value)) : Violation :=
  ⟨path, message, some (orderly (.object details))⟩

/-- Puts the name of a surrounding constraint in front of the path. -/
def under (outer : String) (v : Violation) : Violation := { v with path := outer ++ "." ++ v.path }

/-- A number among the details. -/
def number? (v : Violation) (name : String) : Option Float := do
  (← (← v.details).member? name).asFloat?

def encode (v : Violation) : Value :=
  .object ([("constraint", .string v.path), ("message", .string v.message)] ++
    match v.details with
    | some details => [("details", details)]
    | none => [])

def fields : Record Violation :=
  ((Record.required "constraint" Node.asText).and <|
    (Record.required "message" Node.asText).and <|
    (Record.optional "details" (Node.asOption Node.toValue) none)).map
  fun (path, message, details) => ⟨path, message, details⟩

def decode (n : Node) : Reading Violation := fields.decode n

end Violation
end LayoutAudit
