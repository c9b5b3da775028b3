import LayoutAudit.Element
import LayoutAudit.Json.Reader

/-!
# Measurement — what was found on a page

* `Store` — for each key the elements that were found, in the order of delivery;
* `Measurement` — a store together with the two frames of the page;
* `encode`, `decode` — the wire form.
-/

namespace LayoutAudit

open Json (Value)
open Wire (Node Reading Record)

/-- The elements found for each key, sorted by key. -/
structure Store where
  entries : List (String × List Element)
  deriving BEq, Inhabited

namespace Store

def empty : Store := ⟨[]⟩

/-- The elements of a key. -/
def get (s : Store) (key : String) : List Element := (s.entries.lookup key).getD []

/-- Puts elements under a key, in place of what was there. -/
def insert (s : Store) (key : String) (found : List Element) : Store :=
  ⟨Value.insertMember key found s.entries⟩

def size (s : Store) : Nat := s.entries.length

def encode (s : Store) : Value :=
  .object (s.entries.map fun (key, found) => (key, .array (found.map Element.encode)))

def decode (n : Node) : Reading Store := do
  return ⟨← Node.asEntries (Node.asList Element.decode) n⟩

end Store

/-- Everything that was measured on a page at one instant. -/
structure Measurement where
  store : Store
  view : Element
  canvas : Element
  deriving BEq, Inhabited

namespace Measurement

def encode (m : Measurement) : Value :=
  .object [("store", m.store.encode), ("view", m.view.encode), ("canvas", m.canvas.encode)]

def fields : Record Measurement :=
  ((Record.optional "store" Store.decode .empty).and <|
    (Record.required "view" Element.decode).and <|
    (Record.required "canvas" Element.decode)).map
  fun (store, view, canvas) => ⟨store, view, canvas⟩

def decode (n : Node) : Reading Measurement := fields.decode n

/-- Reads the wire form out of a text. -/
def read (text : String) : Reading Measurement := (Json.Document.read text).decode decode

end Measurement
end LayoutAudit
