import LayoutAudit.Wire.Node

/-!
# Wire.Decode — reading nodes as values of a type

One function per kind of leaf and container.  A node of another shape is `mismatched`; a node that
holds a fault of the text gives that fault.

* `Node.asBool`, `asFloat`, `asNatural`, `asText` — leaves;
* `Node.asOption`, `asList`, `asEntries` — what may be absent, sequences, maps with text keys;
* `Node.asVariant` — one of a few names; `Node.settledVariant` — the same in a settled tree.
-/

namespace LayoutAudit
namespace Wire
namespace Node

def mismatch : Node → Fault
  | .void => .malformed
  | .fault f _ => f
  | _ => .mismatched

/-- A value that was found, or else a mismatch. -/
def expect {α : Type} : Option α → Reading α
  | some a => .ok a
  | none => .error .mismatched

/-- May a scalar be read as a value of the core type with this tag? -/
def admits (tag : String) (s : Scalar) : Bool :=
  s.style = .plain || (s.style = .literal && s.tag = some tag)

def asBool : Node → Reading Bool
  | .bool b => .ok b
  | .scalar s =>
      if admits Scalar.boolTag s then expect (Scalar.bool? s.text) else .error .mismatched
  | n => .error n.mismatch

/-- A double; integers are taken for the nearest one. -/
def asFloat : Node → Reading Float
  | .number n => .ok n.toFloat
  | .scalar s =>
      if admits Scalar.numberTag s then expect (Scalar.number? s.text) else .error .mismatched
  | n => .error n.mismatch

def asNatural (bound : Nat) : Node → Reading Nat
  | .number (.integer i) => if 0 ≤ i ∧ i < bound then .ok i.toNat else .error .mismatched
  | .scalar s =>
      if admits Scalar.integerTag s then
        expect ((Scalar.natural? UInt64.size s.text.toList).filter (· < bound))
      else .error .mismatched
  | n => .error n.mismatch

def asText : Node → Reading String
  | .string s => .ok s
  | .scalar s => .ok s.text
  | n => .error n.mismatch

/-- Does a scalar stand for what is absent? -/
def absent (s : Scalar) : Reading Bool :=
  if s.style ≠ .plain then .ok false
  else match s.tag with
    | some tag =>
        if tag = Scalar.nullTag then
          if Scalar.isNullWord s.text then .ok true else .error .mismatched
        else .ok false
    | none => .ok (s.text.isEmpty || Scalar.isNullWord s.text)

def asOption {α : Type} (decode : Node → Reading α) (n : Node) : Reading (Option α) :=
  match n with
  | .null => .ok none
  | .scalar s => do
      if ← absent s then return none
      return some (← decode n)
  | n => do return some (← decode n)

/-- A scalar that is written with nothing at all. -/
def isBlank (s : Scalar) : Bool := s.text.isEmpty && s.style = .plain

/-- The items of a sequence and the fault behind them. -/
def asItems : Node → Reading (List Node × Option Fault)
  | .array items broken => .ok (items, broken)
  | .sequence _ items => .ok (items, none)
  | .buried _ => .error .malformed
  | .scalar s => if isBlank s then .ok ([], none) else .error .mismatched
  | n => .error n.mismatch

/-- The members of a map and the fault behind them. -/
def asMembers : Node → Reading (List (Node × Node) × Option Fault)
  | .object members broken => .ok (members, broken)
  | .mapping _ members => .ok (members, none)
  | .buried _ => .error .malformed
  | .scalar s => if isBlank s then .ok ([], none) else .error .mismatched
  | n => .error n.mismatch

def decodeEach {α : Type} (decode : Node → Reading α) : List Node → Reading (List α)
  | [] => .ok []
  | n :: rest => do
      let a ← decode n
      return a :: (← decodeEach decode rest)

def asList {α : Type} (decode : Node → Reading α) (n : Node) : Reading (List α) := do
  let (items, broken) ← asItems n
  let as ← decodeEach decode items
  finish broken
  return as

def decodeMembers {α : Type} (decode : Node → Reading α) :
    List (Node × Node) → Reading (List (String × α))
  | [] => .ok []
  | (k, v) :: rest => do
      let name ← asText k
      let a ← decode v
      return (name, a) :: (← decodeMembers decode rest)

/-- A map from texts, sorted, with the last value of each name. -/
def asEntries {α : Type} (decode : Node → Reading α) (n : Node) : Reading (List (String × α)) := do
  let (members, broken) ← asMembers n
  let entries ← decodeMembers decode members
  finish broken
  return Json.Value.sorted entries

def named (names : List String) (name : String) : Reading String :=
  if name ∈ names then .ok name else .error .mismatched

/-- The name that a tag of the document's own gives. -/
def tagName? (tag : Option String) : Option String :=
  match tag.map String.toList with
  | some ('!' :: c :: rest) => some (String.ofList (c :: rest))
  | some ['!'] => some "!"
  | _ => none

/-- One of a few names: as a text, as an object with that one member and nothing in it, or as a
tag on nothing. -/
def asVariant (names : List String) : Node → Reading String
  | .string s => named names s
  | .object members broken =>
      match members with
      | [] => .error (broken.getD .malformed)
      | (k, v) :: rest => do
          let name ← asText k
          let name ← named names name
          match v with
          | .null => .ok ()
          | v => .error v.mismatch
          match rest with
          | [] => finish broken
          | _ => .error .malformed
          return name
  | .fault f _ => .error f
  | .scalar s =>
      match tagName? s.tag with
      | some name =>
          if s.style = .plain ∧ (s.text.isEmpty || Scalar.isNullWord s.text) then named names name
          else .error .mismatched
      | none => named names s.text
  | .sequence _ _ => .error .mismatched
  | .mapping _ _ => .error .mismatched
  | _ => .error .malformed

/-- A name in a settled tree; there it may also be given by its position. -/
def settledName (names : List String) : Node → Reading (Option String)
  | .string s => .ok (some s)
  | .number (.integer i) => if 0 ≤ i then .ok names[i.toNat]? else .error .mismatched
  | _ => .error .mismatched

def settledVariant (names : List String) : Node → Reading String
  | .string s => named names s
  | .object [(k, v)] _ => do
      let name ← expect (← settledName names k)
      let name ← named names name
      match v with
      | .null => return name
      | .object [] _ => return name
      | _ => .error .mismatched
  | _ => .error .mismatched

end Node
end Wire
end LayoutAudit
