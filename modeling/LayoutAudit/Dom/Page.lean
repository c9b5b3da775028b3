import LayoutAudit.Dom.Node
import LayoutAudit.Measurement
import LayoutAudit.Reference

/-!
# Dom.Page — measuring a page in its browser

* `Dom.Page` — a page, given by what queries find on it;
* `Page.find` — the nodes that a selector finds;
* `Page.capture` — the measurement of what was declared.
-/

namespace LayoutAudit
namespace Dom

structure Page where
  window : Window
  /-- The extent of the whole page. -/
  width : Float
  height : Float
  /-- What style queries find. -/
  css : List (String × List Node)
  /-- What path queries find. -/
  xpath : List (String × List Node)
  /-- Queries that the browser does not accept. -/
  refused : List String
  deriving Inhabited

namespace Page

def answers (p : Page) (query : String) (found : List (String × List Node)) :
    Except String (List Node) :=
  if p.refused.contains query then .error ("bad selector " ++ query)
  else .ok ((found.lookup query).getD [])

/-- The nodes that a selector finds.  Frames are not looked for. -/
def find (p : Page) : Selector → Except String (List Node)
  | .css query => p.answers query p.css
  | .xpath query => p.answers query p.xpath
  | .view => .ok []
  | .canvas => .ok []

/-- The elements of a declaration, at most `limit` of them if there is a limit. -/
def elements (p : Page) (limit : Option Nat) (d : Declaration) :
    Except String (String × List Element) := do
  let found ← p.find d.selector
  let found := match limit with
    | some n => found.take n
    | none => found
  return (d.key, found.map (Node.element p.window d.selector.label))

def view (p : Page) : Element :=
  .shownAt "view" ⟨p.window.scrollX, p.window.scrollY, p.window.width, p.window.height⟩

def canvas (p : Page) : Element := .shownAt "canvas" ⟨0.0, 0.0, p.width, p.height⟩

/-- Measures what was declared: of an element the first match, of a group all of them. -/
def capture (p : Page) (elements groups : List Declaration) : Except String Measurement := do
  let singles ← elements.mapM (p.elements (some 1))
  let all ← groups.mapM (p.elements none)
  return ⟨⟨Json.Value.sorted (singles ++ all)⟩, p.view, p.canvas⟩

end Page
end Dom
end LayoutAudit
