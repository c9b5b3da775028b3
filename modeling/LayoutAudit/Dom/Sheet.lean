import LayoutAudit.Dom.Page

/-!
# Dom.Sheet — a page as it is given

A sheet says of a page what does not follow from the size of the window.

* `Dom.Sheet` — a page before it is shown;
* `Sheet.page` — the page in a window of a size;
* `Sheet.decode` — reads the wire form.
-/

namespace LayoutAudit
namespace Dom

open Wire (Reading Record)
open Wire.Node (asEntries asFloat asList asNatural asOption asText)

/-- A page before it is shown.  What is found is given by places in the list of nodes. -/
structure Sheet where
  scrollX : Float
  scrollY : Float
  /-- The size of the window, if it is not that of the viewport. -/
  innerWidth : Option Float
  innerHeight : Option Float
  /-- The extent of the page, if it is not that of the viewport. -/
  scrollWidth : Option Float
  scrollHeight : Option Float
  nodes : List Node
  css : List (String × List Nat)
  xpath : List (String × List Nat)
  refused : List String
  deriving Inhabited

namespace Sheet

def blank : Sheet := ⟨0.0, 0.0, none, none, none, none, [], [], [], []⟩

/-- What queries find, as nodes. -/
def found (s : Sheet) (places : List (String × List Nat)) : List (String × List Node) :=
  places.map fun (query, is) => (query, is.filterMap (s.nodes[·]?))

def page (s : Sheet) (width height : Nat) : Page :=
  let width := Float.ofNat width
  let height := Float.ofNat height
  { window := ⟨s.scrollX, s.scrollY, s.innerWidth.getD width, s.innerHeight.getD height⟩
    width := s.scrollWidth.getD width
    height := s.scrollHeight.getD height
    css := s.found s.css
    xpath := s.found s.xpath
    refused := s.refused }

/-- A length that need not be there. -/
def length (name : String) : Record (Option Float) := .optional name (asOption asFloat) none

def windowFields : Record (Option Float × Option Float × Option Float × Option Float) :=
  (length "scrollX").and <| (length "scrollY").and <| (length "innerWidth").and <|
    (length "innerHeight")

def pageFields : Record (Option Float × Option Float) :=
  (length "scrollWidth").and (length "scrollHeight")

def decodePlaces (n : Wire.Node) : Reading (List Nat) := asList (asNatural UInt32.size) n

def fields : Record Sheet :=
  ((Record.optional "window" windowFields.decode (none, none, none, none)).and <|
    (Record.optional "doc" pageFields.decode (none, none)).and <|
    (Record.optional "nodes" (asList Node.decode) []).and <|
    (Record.optional "css" (asEntries decodePlaces) []).and <|
    (Record.optional "xpath" (asEntries decodePlaces) []).and <|
    (Record.optional "throws" (asList asText) [])).map
  fun ((x, y, innerWidth, innerHeight), (scrollWidth, scrollHeight), nodes, css, xpath, refused) =>
    ⟨x.getD 0.0, y.getD 0.0, innerWidth, innerHeight, scrollWidth, scrollHeight, nodes, css, xpath,
      refused⟩

def decode (n : Wire.Node) : Reading Sheet := fields.decode n

end Sheet
end Dom
end LayoutAudit
