import LayoutAudit.Json.Value
import LayoutAudit.Wire.Record

/-!
# Reference — names for elements that are not yet measured

A spec speaks of elements through references.  What stands behind one is declared by a selector and
found when the page is measured.

* `Selector` — where to look: a query, or one of the two frames of the page;
* `ElementRef`, `GroupRef` — references to one element and to all matches;
* `ElementRef.view`, `ElementRef.canvas` — the references that every spec has;
* `Declaration` — a key with its selector, as it is handed to whoever measures.
-/

namespace LayoutAudit

open Json (Value)
open Wire (Fault Node Reading Record)

/-- Where an element is found. -/
inductive Selector where
  | css (query : String)
  | xpath (query : String)
  /-- The visible part of the page. -/
  | view
  /-- All of the page that can be scrolled to. -/
  | canvas
  deriving DecidableEq, Repr, Inhabited

namespace Selector

def label : Selector → String
  | css query => query
  | xpath query => "xpath:" ++ query
  | view => "view"
  | canvas => "canvas"

/-- Is it one of the two frames?  They are never looked for. -/
def isFrame : Selector → Bool
  | css _ => false
  | xpath _ => false
  | view => true
  | canvas => true

/-- The wire form: the kind of selector, and the query of those that have one. -/
def encode : Selector → Value
  | css query => .object [("kind", .string "css"), ("query", .string query)]
  | xpath query => .object [("kind", .string "xpath"), ("query", .string query)]
  | view => .object [("kind", .string "view")]
  | canvas => .object [("kind", .string "canvas")]

def kinds : List String := ["css", "xpath", "view", "canvas"]

/-- A query that is not there, or is null. -/
def noQuery : Node → Reading Unit
  | .null => .ok ()
  | .buried _ => .error .malformed
  | n => .error n.mismatch

def ofKind (kind : String) (query : Node) : Reading Selector :=
  match kind with
  | "css" => do return .css (← query.asText)
  | "xpath" => do return .xpath (← query.asText)
  | "view" => do noQuery query; return .view
  | _ => do noQuery query; return .canvas

/-- The selector of a kind that comes without a query. -/
def ofKindAlone : String → Reading Selector
  | "view" => .ok .view
  | "canvas" => .ok .canvas
  | _ => .error .mismatched

/-- What has been read of a selector.  A query in front of the kind waits for it. -/
inductive Progress where
  | nothing
  | kind (name : String)
  | query (settled : Node)
  | whole (s : Selector)

def Progress.putKind (v : Node) : Progress → Reading Progress
  | nothing => do return kind (← v.asVariant kinds)
  | query settled => do return whole (← ofKind (← v.asVariant kinds) settled)
  | _ => .error .mismatched

def Progress.putQuery (v : Node) : Progress → Reading Progress
  | nothing => do return query (← v.settle)
  | kind name => do return whole (← ofKind name v)
  | _ => .error .mismatched

def Progress.complete : Progress → Reading Selector
  | whole s => .ok s
  | kind name => ofKindAlone name
  | _ => .error .mismatched

def readMembers : List (Node × Node) → Progress → Reading Progress
  | [], p => .ok p
  | (k, v) :: rest, p => do
      match ← k.asText with
      | "kind" => readMembers rest (← p.putKind v)
      | "query" => readMembers rest (← p.putQuery v)
      | _ =>
          v.skip
          readMembers rest p

/-- Reads the wire form: an object, or an array of kind and query. -/
def decode (n : Node) : Reading Selector :=
  match n with
  | .array items broken =>
      match items with
      | kind :: query :: rest => do
          let s ← ofKind (← kind.asVariant kinds) query
          match rest with
          | [] => Node.finish broken
          | _ => .error .malformed
          return s
      | [kind] => do
          let _ ← kind.asVariant kinds
          Node.finish broken
          .error .mismatched
      | [] => do
          Node.finish broken
          .error .mismatched
  | .sequence _ _ => .error .mismatched
  | n => do
      let (members, broken) ← n.asMembers
      let p ← readMembers members .nothing
      Node.finish broken
      p.complete

end Selector

def viewKey : String := "$view"

def canvasKey : String := "$canvas"

/-- A reference to one element: the first that is found. -/
structure ElementRef where
  key : String
  deriving DecidableEq, Repr, Inhabited

namespace ElementRef

def view : ElementRef := ⟨viewKey⟩

def canvas : ElementRef := ⟨canvasKey⟩

end ElementRef

/-- A reference to all elements that are found. -/
structure GroupRef where
  key : String
  deriving DecidableEq, Repr, Inhabited

structure Declaration where
  key : String
  selector : Selector
  deriving DecidableEq, Repr, Inhabited

namespace Declaration

def encode (d : Declaration) : Value :=
  .object [("key", .string d.key), ("selector", d.selector.encode)]

def fields : Record Declaration :=
  ((Record.required "key" Node.asText).and (Record.required "selector" Selector.decode)).map
    fun (key, selector) => ⟨key, selector⟩

def decode (n : Node) : Reading Declaration := fields.decode n

end Declaration
end LayoutAudit
