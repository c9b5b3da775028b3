import LayoutAudit.Json.Value
import LayoutAudit.Wire.Scalar

/-!
# Wire.Node — what a decoder reads

A tree of data as far as a text could be read.  Faults of the text stand in the tree at the place
where reading stopped, so a decoder that walks the tree in the order of the text meets the first
fault first, whether it is one of the text or one of the data.

There are two families of nodes: typed ones (JSON, and scalars once they are resolved) and untyped
ones (`scalar`, `sequence`, `mapping`, of a YAML document).

* `Wire.Fault` — the three kinds of fault;
* `Wire.Node` — the tree, and `Node.ofValue` for data at hand;
* `Node.skip` — passing over a node that nobody reads;
* `Node.settle` — reading a whole node before any of it is used;
* `Node.toValue` — a node as JSON data.
-/

namespace LayoutAudit
namespace Wire

open Json (Number Value)

inductive Fault where
  /-- The text does not follow the grammar. -/
  | malformed
  /-- The text ends early. -/
  | truncated
  /-- The text is well formed, but not of the expected shape. -/
  | mismatched
  deriving DecidableEq, Repr, Inhabited

def Fault.category : Fault → String
  | .malformed => "syntax"
  | .truncated => "eof"
  | .mismatched => "data"

abbrev Reading (α : Type) := Except Fault α

/-- Data as far as its text could be read. -/
inductive Node where
  | null
  | bool (b : Bool)
  | number (n : Number)
  | string (s : String)
  /-- The items, and the fault after the last of them. -/
  | array (items : List Node) (broken : Option Fault)
  /-- The members, and the fault after the last of them. -/
  | object (members : List (Node × Node)) (broken : Option Fault)
  /-- A well-formed token that stands for no value, such as a number beyond all doubles. -/
  | void
  /-- A container nested deeper than is read. -/
  | buried (inner : Node)
  /-- The text stops here: with one fault for a reader, perhaps with another for who passes over. -/
  | fault (read skipped : Fault)
  | scalar (s : Scalar)
  | sequence (tag : Option String) (items : List Node)
  | mapping (tag : Option String) (members : List (Node × Node))
  deriving Inhabited

namespace Node

mutual
def ofValue : Value → Node
  | .null => .null
  | .bool b => .bool b
  | .number n => .number n
  | .string s => .string s
  | .array items => .array (ofValues items) none
  | .object members => .object (ofMembers members) none

def ofValues : List Value → List Node
  | [] => []
  | v :: rest => ofValue v :: ofValues rest

def ofMembers : List (String × Value) → List (Node × Node)
  | [] => []
  | (k, v) :: rest => (.string k, ofValue v) :: ofMembers rest
end

/-- Raises the fault that ends a container, if there is one. -/
def finish : Option Fault → Reading Unit
  | none => .ok ()
  | some f => .error f

mutual
/-- Passes over a node: only faults of the text matter, and those of grammar alone. -/
def skip : Node → Reading Unit
  | .array items broken => do skipItems items; finish broken
  | .object members broken => do skipMembers members; finish broken
  | .buried inner => skip inner
  | .fault _ f => .error f
  | _ => .ok ()

def skipItems : List Node → Reading Unit
  | [] => .ok ()
  | n :: rest => do skip n; skipItems rest

def skipMembers : List (Node × Node) → Reading Unit
  | [] => .ok ()
  | (k, v) :: rest => do skip k; skip v; skipMembers rest
end

/-- The meaning of a scalar that nobody expects to be of a certain type.  The tag of a core type
asks for that type; a plain scalar is the first of null, truth value, integer, number that it can
be read as; all else is text. -/
def resolve (s : Scalar) : Reading Node :=
  let cs := s.text.toList
  let integer? : Option (Reading Node) :=
    match Scalar.natural? UInt64.size cs, Scalar.negative? (UInt64.size / 2) cs with
    | some n, _ => some (.ok (.number (.integer n)))
    | none, some n => some (.ok (.number (.integer (-(n : Int)))))
    | none, none =>
        match Scalar.natural? (Nat.pow 2 128) cs, Scalar.negative? (Nat.pow 2 127) cs with
        | none, none => none
        | _, _ => some (.error .mismatched)
  let plain : Reading Node :=
    if s.text.isEmpty || Scalar.isNullWord s.text then .ok .null
    else match Scalar.bool? s.text with
      | some b => .ok (.bool b)
      | none => match integer? with
        | some n => n
        | none =>
            if Scalar.hasIdleZero cs then .ok (.string s.text)
            else match Scalar.number? s.text with
              | some x => .ok (.number (.real x))
              | none => .ok (.string s.text)
  match s.tag with
  | some tag =>
      if tag.startsWith "!" then .error .mismatched
      else if tag = Scalar.boolTag then
        match Scalar.bool? s.text with
        | some b => .ok (.bool b)
        | none => .error .mismatched
      else if tag = Scalar.integerTag then integer?.getD (.error .mismatched)
      else if tag = Scalar.numberTag then
        match Scalar.number? s.text with
        | some x => .ok (.number (.real x))
        | none => .error .mismatched
      else if tag = Scalar.nullTag then
        if Scalar.isNullWord s.text then .ok .null else .error .mismatched
      else .ok (.string s.text)
  | none => if s.style = .plain then plain else .ok (.string s.text)

/-- A tag of the document's own on a container names no type that can be settled. -/
def localTag (tag : Option String) : Bool := tag.any (·.startsWith "!")

mutual
/-- Reads a whole node: faults of any kind surface, and scalars take their meaning. -/
def settle : Node → Reading Node
  | .array items broken => do
      let items ← settleItems items
      finish broken
      return .array items none
  | .object members broken => do
      let members ← settleMembers members
      finish broken
      return .object members none
  | .void => .error .malformed
  | .buried _ => .error .malformed
  | .fault f _ => .error f
  | .scalar s => resolve s
  | .sequence tag items =>
      if localTag tag then .error .mismatched
      else do return .array (← settleItems items) none
  | .mapping tag members =>
      if localTag tag then .error .mismatched
      else do return .object (← settleMembers members) none
  | n => .ok n

def settleItems : List Node → Reading (List Node)
  | [] => .ok []
  | n :: rest => do
      let n ← settle n
      return n :: (← settleItems rest)

def settleMembers : List (Node × Node) → Reading (List (Node × Node))
  | [] => .ok []
  | (k, v) :: rest => do
      let k ← settle k
      let v ← settle v
      return (k, v) :: (← settleMembers rest)
end

mutual
/-- A node as JSON data; the members of objects come sorted, the last of each name. -/
def toValue : Node → Reading Value
  | .null => .ok .null
  | .bool b => .ok (.bool b)
  | .number n => .ok (.number n)
  | .string s => .ok (.string s)
  | .array items broken => do
      let items ← toValues items
      finish broken
      return .array items
  | .object members broken => do
      let members ← toMembers members
      finish broken
      return .object (Value.sorted members)
  | .void => .error .malformed
  | .buried _ => .error .malformed
  | .fault f _ => .error f
  | .scalar _ => .error .mismatched
  | .sequence _ _ => .error .mismatched
  | .mapping _ _ => .error .mismatched

def toValues : List Node → Reading (List Value)
  | [] => .ok []
  | n :: rest => do
      let v ← toValue n
      return v :: (← toValues rest)

def toMembers : List (Node × Node) → Reading (List (String × Value))
  | [] => .ok []
  | (k, v) :: rest => do
      match k with
      | .string name =>
          let v ← toValue v
          return (name, v) :: (← toMembers rest)
      | .fault f _ => .error f
      | .void => .error .malformed
      | _ => .error .mismatched
end

end Node
end Wire
end LayoutAudit
