import LayoutAudit.Wire.Decode

/-!
# Wire.Record — structures with named fields

A `Record α` reads a structure: from an object, whose members come in any order, or from an array
of the fields in their declared order.  A field that comes twice is a mismatch, members of other
names are passed over, and a missing field is a mismatch unless it has a default.

* `Record`, `Record.required`, `Record.optional`, `Record.and`, `Record.map` — building;
* `Record.decode` — reading a node;
* `Record.ofSettled` — reading a tree that was settled first;
* `Tagged.split` — the name of a variant, told by a member of the object, and its other members.
-/

namespace LayoutAudit
namespace Wire

structure Record (α : Type) where
  /-- The names of the fields, in order. -/
  names : List String
  /-- What has been read so far. -/
  Slots : Type
  start : Slots
  /-- Takes a member; `none` for a name that is no field. -/
  put : String → Node → Slots → Option (Reading Slots)
  /-- The structure, once all members are read. -/
  complete : Slots → Reading α
  /-- Takes the fields from items in order, given the fault behind the last item. -/
  take : Option Fault → List Node → Reading (α × List Node)

namespace Record

variable {α β : Type}

def field (name : String) (decode : Node → Reading α) (default? : Option α) : Record α where
  names := [name]
  Slots := Option α
  start := none
  put := fun key v slot =>
    if key = name then
      match slot with
      | some _ => some (.error .mismatched)
      | none => some (do return some (← decode v))
    else none
  complete := fun slot =>
    match slot with
    | some a => .ok a
    | none => Node.expect default?
  take := fun broken items =>
    match items with
    | n :: rest => do return (← decode n, rest)
    | [] => do
        Node.finish broken
        return (← Node.expect default?, [])

/-- A field that has to be there. -/
def required (name : String) (decode : Node → Reading α) : Record α := field name decode none

/-- A field with a default. -/
def optional (name : String) (decode : Node → Reading α) (default : α) : Record α :=
  field name decode (some default)

def and (r : Record α) (s : Record β) : Record (α × β) where
  names := r.names ++ s.names
  Slots := r.Slots × s.Slots
  start := (r.start, s.start)
  put := fun key v slots =>
    match r.put key v slots.1 with
    | some left => some (do return (← left, slots.2))
    | none => (s.put key v slots.2).map fun right => do return (slots.1, ← right)
  complete := fun slots => do return (← r.complete slots.1, ← s.complete slots.2)
  take := fun broken items => do
    let (a, items) ← r.take broken items
    let (b, items) ← s.take broken items
    return ((a, b), items)

def map (f : α → β) (r : Record α) : Record β where
  names := r.names
  Slots := r.Slots
  start := r.start
  put := r.put
  complete := fun slots => do return f (← r.complete slots)
  take := fun broken items => do
    let (a, items) ← r.take broken items
    return (f a, items)

def putMembers (r : Record α) : List (Node × Node) → r.Slots → Reading r.Slots
  | [], slots => .ok slots
  | (k, v) :: rest, slots => do
      let name ← Node.asText k
      match r.put name v slots with
      | some next => putMembers r rest (← next)
      | none =>
          Node.skip v
          putMembers r rest slots

def fromMembers (r : Record α) (members : List (Node × Node)) (broken : Option Fault) :
    Reading α := do
  let slots ← r.putMembers members r.start
  Node.finish broken
  r.complete slots

/-- Reads the items of an array; no item may be left over. -/
def fromItems (r : Record α) (items : List Node) (broken : Option Fault) : Reading α := do
  let (a, rest) ← r.take broken items
  match rest with
  | [] => Node.finish broken
  | _ => .error .malformed
  return a

def decode (r : Record α) (n : Node) : Reading α :=
  match n with
  | .array items broken => r.fromItems items broken
  | .sequence _ _ => .error .mismatched
  | n => do
      let (members, broken) ← Node.asMembers n
      r.fromMembers members broken

/-- Reads members of a settled object; a field may also be named by its position. -/
def putSettled (r : Record α) : List (Node × Node) → r.Slots → Reading r.Slots
  | [], slots => .ok slots
  | (k, v) :: rest, slots => do
      match ← Node.settledName r.names k with
      | none => putSettled r rest slots
      | some name =>
          match r.put name v slots with
          | some next => putSettled r rest (← next)
          | none => putSettled r rest slots

def ofSettled (r : Record α) : Node → Reading α
  | .array items _ => do
      let (a, rest) ← r.take none items
      if rest.isEmpty then return a else .error .mismatched
  | .object members _ => do r.complete (← r.putSettled members r.start)
  | _ => .error .mismatched

end Record

namespace Tagged

/-- Reads the members of an object in which the member `tag` names the variant; the others are
settled and kept. -/
def splitMembers (tag : String) (names : List String) :
    List (Node × Node) → Option String → Reading (Option String × List (Node × Node))
  | [], found => .ok (found, [])
  | (k, v) :: rest, found => do
      let k ← Node.settle k
      let isTag := match k with
        | .string name => name == tag
        | _ => false
      if isTag then
        if found.isSome then .error .mismatched
        else do
          let name ← Node.named names (← Node.asText v)
          splitMembers tag names rest (some name)
      else do
        let v ← Node.settle v
        let (found, members) ← splitMembers tag names rest found
        return (found, (k, v) :: members)

/-- The variant that a node names, and the settled rest of the node.  An array gives the name
first. -/
def split (tag : String) (names : List String) : Node → Reading (String × Node)
  | .array items broken =>
      match items with
      | [] => do
          Node.finish broken
          .error .mismatched
      | first :: rest => do
          let name ← Node.named names (← Node.asText first)
          let rest ← Node.settleItems rest
          Node.finish broken
          return (name, .array rest none)
  | .sequence tag items =>
      if Node.localTag tag then .error .mismatched
      else match items with
        | [] => .error .mismatched
        | first :: rest => do
            let name ← Node.named names (← Node.asText first)
            return (name, .array (← Node.settleItems rest) none)
  | .mapping own members =>
      if Node.localTag own then .error .mismatched
      else do
        let (found, members) ← splitMembers tag names members none
        return (← Node.expect found, .object members none)
  | .object members broken => do
      let (found, members) ← splitMembers tag names members none
      Node.finish broken
      return (← Node.expect found, .object members none)
  | .buried _ => .error .malformed
  | n => .error n.mismatch

end Tagged
end Wire
end LayoutAudit
