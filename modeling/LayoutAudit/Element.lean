import LayoutAudit.Coordinate
import LayoutAudit.Json.Value
import LayoutAudit.Wire.Record

/-!
# Element — measured elements of a page

An element is recorded as it was at one instant: three rectangles, two flags, its text and the
metrics of its lines.

* `Rect` — an axis-aligned rectangle, with `Rect.sharedArea`;
* `Element` — the record, with derived positions; `Element.missing` stands in for what was not
  found;
* `Group` — elements in the order in which they were delivered;
* `encode`, `decode` — the wire forms.
-/

namespace LayoutAudit

open Json (Value)
open Wire (Node Reading Record)

/-- An axis-aligned rectangle in CSS pixels. -/
structure Rect where
  left : Float
  top : Float
  width : Float
  height : Float
  deriving BEq, Inhabited

namespace Rect

def zero : Rect := ⟨0.0, 0.0, 0.0, 0.0⟩

def right (r : Rect) : Float := r.left + r.width

def bottom (r : Rect) : Float := r.top + r.height

/-- The area that two rectangles share, zero when they are apart. -/
def sharedArea (a b : Rect) : Float :=
  let w := Coordinate.least a.right b.right - Coordinate.greatest a.left b.left
  let h := Coordinate.least a.bottom b.bottom - Coordinate.greatest a.top b.top
  if w ≤ 0.0 || h ≤ 0.0 then 0.0 else w * h

def encode (r : Rect) : Value :=
  .object [("left", .float r.left), ("top", .float r.top), ("width", .float r.width),
    ("height", .float r.height)]

def fields : Record Rect :=
  let edge (name : String) : Record Float := .required name Node.asFloat
  ((edge "left").and ((edge "top").and ((edge "width").and (edge "height")))).map
    fun (left, top, width, height) => ⟨left, top, width, height⟩

def decode (n : Node) : Reading Rect := fields.decode n

end Rect

structure Element where
  selector : String
  /-- The box in page coordinates. -/
  box : Rect
  /-- The box clipped to the viewport. -/
  view : Rect
  /-- The scrollable extent. -/
  canvas : Rect
  visible : Bool
  present : Bool
  text : String
  /-- The metrics of each rendered line, if they were taken. -/
  lines : Option (List Rect)
  deriving BEq, Inhabited

namespace Element

def blank : Element := ⟨"", .zero, .zero, .zero, false, false, "", none⟩

/-- Stands in for a reference that matched nothing. -/
def missing (selector : String) : Element := { blank with selector }

/-- A present and visible element whose three rectangles agree. -/
def shownAt (selector : String) (rect : Rect) : Element :=
  ⟨selector, rect, rect, rect, true, true, "", none⟩

def left (e : Element) : Float := e.box.left

def top (e : Element) : Float := e.box.top

def width (e : Element) : Float := e.box.width

def height (e : Element) : Float := e.box.height

def right (e : Element) : Float := e.box.right

def bottom (e : Element) : Float := e.box.bottom

def centerX (e : Element) : Float := e.left + e.width / 2.0

def centerY (e : Element) : Float := e.top + e.height / 2.0

/-- The wire form; line metrics are written only if they were taken. -/
def encode (e : Element) : Value :=
  .object ([("selector", .string e.selector), ("box", e.box.encode), ("view", e.view.encode),
    ("canvas", e.canvas.encode), ("visible", .bool e.visible), ("present", .bool e.present),
    ("text", .string e.text)] ++
    match e.lines with
    | some lines => [("lines", .array (lines.map Rect.encode))]
    | none => [])

def fields : Record Element :=
  ((Record.required "selector" Node.asText).and <|
    (Record.required "box" Rect.decode).and <|
    (Record.optional "view" Rect.decode .zero).and <|
    (Record.optional "canvas" Rect.decode .zero).and <|
    (Record.optional "visible" Node.asBool false).and <|
    (Record.optional "present" Node.asBool true).and <|
    (Record.optional "text" Node.asText "").and <|
    (Record.optional "lines" (Node.asOption (Node.asList Rect.decode)) none)).map
  fun (selector, box, view, canvas, visible, present, text, lines) =>
    ⟨selector, box, view, canvas, visible, present, text, lines⟩

def decode (n : Node) : Reading Element := fields.decode n

end Element

/-- Elements in the order in which they were delivered, under the label of their selector. -/
structure Group where
  selector : String
  items : List Element
  deriving BEq, Inhabited

end LayoutAudit
