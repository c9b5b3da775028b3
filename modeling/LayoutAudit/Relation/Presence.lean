import LayoutAudit.Element
import LayoutAudit.Violation

/-!
# Relation.Presence — nothing is said about what is not there

A relation that measures its operands first asks whether they were found.  If some were not, that
is its only violation, and nothing is measured.

* `Relation.quote` — a selector in a message;
* `Relation.missing` — the selectors of the operands that were not found;
* `Relation.whenPresent` — the gate;
* `Relation.require` — one test, with the violation that stands for its failure.
-/

namespace LayoutAudit
namespace Relation

open Json (Value)

def quote (selector : String) : String := "`" ++ selector ++ "`"

/-- The selectors of the operands that were not found, in the order of the operands. -/
def missing (operands : List Element) : List String :=
  (operands.filter (!·.present)).map (·.selector)

def notFound (name : String) (selectors : List String) : Violation :=
  .detailed (name ++ ".present") (quote ("`, `".intercalate selectors) ++ " not found on the page")
    [("missing", .strings selectors)]

/-- What a relation reports about its operands, provided that all were found. -/
def whenPresent (name : String) (operands : List Element) (result : List Violation) :
    List Violation :=
  match missing operands with
  | [] => result
  | selector :: rest => [notFound name (selector :: rest)]

/-- No violation if a test holds, else one. -/
def require (holds : Bool) (v : Violation) : List Violation := if holds then [] else [v]

end Relation
end LayoutAudit
