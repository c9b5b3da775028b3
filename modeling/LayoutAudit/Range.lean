import LayoutAudit.Decimal.Style
import LayoutAudit.Json.Value
import LayoutAudit.Wire.Record

/-!
# Range — tests on one number

* `Range` — the tests; bounds are inclusive for `atLeast`, `atMost` and `between`;
* `Range.admits` — does a number pass? what is undefined never does;
* `Range.text` — the test in words;
* `Range.encode`, `Range.decode` — the wire form, with the kind of test under `kind`.
-/

namespace LayoutAudit

open Json (Value)
open Wire (Node Reading Record)

def numberText (x : Float) : String := Decimal.Style.prose.write x

/-- A test on one number. -/
inductive Range where
  | exactly (value : Float)
  | atLeast (min : Float)
  | atMost (max : Float)
  | above (min : Float)
  | below (max : Float)
  | between (min max : Float)
  | around (value tolerance : Float)
  deriving BEq, Inhabited

namespace Range

/-- Does a number pass the test? -/
def admits (r : Range) (x : Float) : Bool :=
  !x.isNaN &&
    match r with
    | exactly value => x == value
    | atLeast min => min ≤ x
    | atMost max => x ≤ max
    | above min => min < x
    | below max => x < max
    | between min max => min ≤ x && x ≤ max
    | around value tolerance => (x - value).abs ≤ tolerance

def text : Range → String
  | exactly value => "exactly " ++ numberText value
  | atLeast min => ">= " ++ numberText min
  | atMost max => "<= " ++ numberText max
  | above min => "> " ++ numberText min
  | below max => "< " ++ numberText max
  | between min max => "between " ++ numberText min ++ " and " ++ numberText max
  | around value tolerance => numberText value ++ " +/- " ++ numberText tolerance

/-- The wire name of the kind of test. -/
def kind : Range → String
  | exactly _ => "eq"
  | atLeast _ => "gte"
  | atMost _ => "lte"
  | above _ => "gt"
  | below _ => "lt"
  | between _ _ => "between"
  | around _ _ => "approx"

def bounds : Range → List (String × Float)
  | exactly value => [("value", value)]
  | atLeast min => [("min", min)]
  | atMost max => [("max", max)]
  | above min => [("min", min)]
  | below max => [("max", max)]
  | between min max => [("min", min), ("max", max)]
  | around value tolerance => [("value", value), ("tolerance", tolerance)]

def encode (r : Range) : Value :=
  .object (("kind", .string r.kind) :: r.bounds.map fun (name, x) => (name, .float x))

def kinds : List String := ["eq", "gte", "lte", "gt", "lt", "between", "approx"]

def bound (name : String) : Record Float := .required name Node.asFloat

def fields (kind : String) : Record Range :=
  match kind with
  | "eq" => (bound "value").map exactly
  | "gte" => (bound "min").map atLeast
  | "lte" => (bound "max").map atMost
  | "gt" => (bound "min").map above
  | "lt" => (bound "max").map below
  | "between" => ((bound "min").and (bound "max")).map fun (a, b) => between a b
  | _ => ((bound "value").and (bound "tolerance")).map fun (a, b) => around a b

def decode (n : Node) : Reading Range := do
  let (kind, rest) ← Wire.Tagged.split "kind" kinds n
  (fields kind).ofSettled rest

end Range
end LayoutAudit
