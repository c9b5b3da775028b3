/-!
# Json.Value — JSON data

A number is an integer or a double, as the text that it came from decided.  The members of an
object keep their order; payloads of violations keep theirs sorted by name (`Value.sorted`).

* `Json.Number`, `Json.Value` — the data;
* `Value.member?`, `Value.asFloat?` — access;
* `Value.insertMember`, `Value.sorted` — objects as finite maps with sorted names.
-/

namespace LayoutAudit
namespace Json

inductive Number where
  | integer (i : Int)
  | real (x : Float)
  deriving BEq, Inhabited

/-- The double nearest to a number. -/
def Number.toFloat : Number → Float
  | .integer i => Float.ofInt i
  | .real x => x

inductive Value where
  | null
  | bool (b : Bool)
  | number (n : Number)
  | string (s : String)
  | array (items : List Value)
  | object (members : List (String × Value))
  deriving BEq, Inhabited

namespace Value

def int (i : Int) : Value := .number (.integer i)

def nat (n : Nat) : Value := .number (.integer n)

/-- A double as a value: what is not finite has no JSON number. -/
def float (x : Float) : Value := if x.isFinite then .number (.real x) else .null

/-- `null` for what is missing. -/
def option {α : Type} (f : α → Value) : Option α → Value
  | none => .null
  | some a => f a

def strings (xs : List String) : Value := .array (xs.map .string)

/-- The member of that name; of several the last. -/
def member? (v : Value) (name : String) : Option Value :=
  match v with
  | .object members => (members.reverse.find? (·.1 == name)).map (·.2)
  | _ => none

def asFloat? : Value → Option Float
  | .number n => some n.toFloat
  | _ => none

/-- Puts a member at its place among members sorted by name; a member of the same name is
replaced. -/
def insertMember {α : Type} (name : String) (v : α) : List (String × α) → List (String × α)
  | [] => [(name, v)]
  | m :: rest =>
      if name < m.1 then (name, v) :: m :: rest
      else if name = m.1 then (name, v) :: rest
      else m :: insertMember name v rest

/-- The members in the order of their names, the last of each name. -/
def sorted {α : Type} (members : List (String × α)) : List (String × α) :=
  members.foldl (fun acc m => insertMember m.1 m.2 acc) []

end Value
end Json
end LayoutAudit
