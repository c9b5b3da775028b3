import LayoutAudit.Element
import LayoutAudit.Text.Leading

/-!
# Dom.Node — what a browser knows about a node of a page

* `Dom.Window` — how much of a page is seen, and how far it is scrolled;
* `Dom.Node` — position, style and text of a node;
* `Node.isVisible`, `Node.content`, `Node.lines` — what can be told from that;
* `Node.element` — the node as an element of a measurement;
* `Node.decode` — reads the wire form.
-/

namespace LayoutAudit
namespace Dom

open Wire (Reading Record)
open Wire.Node (asFloat asList asOption asText)

/-- How much of a page is seen, and how far it is scrolled. -/
structure Window where
  scrollX : Float
  scrollY : Float
  width : Float
  height : Float
  deriving Inhabited

/-- A node of a page.  Rectangles are relative to the window. -/
structure Node where
  rect : Rect
  scrollWidth : Float
  scrollHeight : Float
  display : String
  visibility : String
  opacity : String
  /-- The text as it is rendered. -/
  rendered : Option String
  /-- The text as it stands in the document. -/
  written : Option String
  /-- The rectangles that the text takes up. -/
  fragments : List Rect
  deriving Inhabited

namespace Node

def styleFields : Record (String × String × String) :=
  (Record.optional "display" asText "block").and <|
    (Record.optional "visibility" asText "visible").and <|
    (Record.optional "opacity" asText "1")

/-- The fields of the wire form.  A node that says nothing of scrolling has no more than is seen. -/
def fields : Record Node :=
  ((Record.optional "rect" Rect.decode .zero).and <|
    (Record.optional "scroll" (asOption (asList asFloat)) none).and <|
    (Record.optional "style" styleFields.decode ("block", "visible", "1")).and <|
    (Record.optional "innerText" (asOption asText) none).and <|
    (Record.optional "textContent" (asOption asText) none).and <|
    (Record.optional "rects" (asList Rect.decode) [])).map
  fun (rect, scroll, (display, visibility, opacity), rendered, written, fragments) =>
    let scroll := scroll.getD [rect.width, rect.height]
    ⟨rect, scroll.getD 0 rect.width, scroll.getD 1 rect.height, display, visibility, opacity,
      rendered, written, fragments⟩

def decode (n : Wire.Node) : Reading Node := fields.decode n

/-- A node is visible if it has an extent and its style does not hide it. -/
def isVisible (n : Node) : Bool :=
  n.rect.width > 0.0 && n.rect.height > 0.0 && n.display != "none" && n.visibility != "hidden" &&
    (Text.leading? n.opacity).any Text.Leading.isPositive

/-- The text of a node: the rendered one, if there is any. -/
def content (n : Node) : String :=
  match n.rendered, n.written with
  | some "", some text => text
  | some text, _ => text
  | none, some text => text
  | none, none => ""

/-- Fragments whose tops are less than this apart are on one line. -/
def lineTolerance : Float := 2.0

/-- A fragment on the page. -/
def placed (w : Window) (r : Rect) : Rect :=
  ⟨r.left + w.scrollX, r.top + w.scrollY, r.width, r.height⟩

def joined (w : Window) (line fragment : Rect) : Rect :=
  let right := Coordinate.greatest line.right (fragment.right + w.scrollX)
  let left := Coordinate.least line.left (fragment.left + w.scrollX)
  ⟨left, line.top, right - left, Coordinate.greatest line.height fragment.height⟩

/-- Takes a fragment: it joins the last line, if it is on it, or else begins a line, if it is not
empty.  The last line comes first. -/
def addFragment (w : Window) (lines : List Rect) (fragment : Rect) : List Rect :=
  let fresh := if fragment.width > 0.0 then placed w fragment :: lines else lines
  match lines with
  | line :: before =>
      if (line.top - (fragment.top + w.scrollY)).abs < lineTolerance then
        joined w line fragment :: before
      else fresh
  | [] => fresh

def lines (w : Window) (n : Node) : List Rect := (n.fragments.foldl (addFragment w) []).reverse

/-- The part of a rectangle that is in the window. -/
def clipped (w : Window) (r : Rect) : Rect :=
  let left := Coordinate.greatest r.left 0.0
  let top := Coordinate.greatest r.top 0.0
  let right := Coordinate.least r.right w.width
  let bottom := Coordinate.least r.bottom w.height
  ⟨left, top, Coordinate.greatest (right - left) 0.0, Coordinate.greatest (bottom - top) 0.0⟩

/-- The node as an element, under the label of the selector that found it. -/
def element (w : Window) (label : String) (n : Node) : Element where
  selector := label
  box := placed w n.rect
  view := clipped w n.rect
  canvas := placed w ⟨n.rect.left, n.rect.top, n.scrollWidth, n.scrollHeight⟩
  visible := n.isVisible
  present := true
  text := n.content
  lines := some (n.lines w)

end Node
end Dom
end LayoutAudit
