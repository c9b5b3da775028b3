import LayoutAudit.Viewport.Class

/-!
# Viewport.Size — viewports by name

* `Viewport` — a name and the size in whole CSS pixels;
* `Viewport.viewportClass`, `Viewport.text`;
* `encode`, `decode` — the wire form.
-/

namespace LayoutAudit

open Json (Value)
open Wire (Node Reading Record)

structure Viewport where
  name : String
  width : Nat
  height : Nat
  deriving DecidableEq, Repr, Inhabited

namespace Viewport

def sizeBound : Nat := UInt32.size

def viewportClass (v : Viewport) : ViewportClass := .ofWidth (Float.ofNat v.width)

def sizeText (v : Viewport) : String := toString v.width ++ "x" ++ toString v.height

def text (v : Viewport) : String := v.name ++ " (" ++ v.sizeText ++ ")"

def encode (v : Viewport) : Value :=
  .object [("name", .string v.name), ("width", .nat v.width), ("height", .nat v.height)]

def fields : Record Viewport :=
  ((Record.required "name" Node.asText).and <|
    (Record.required "width" (Node.asNatural sizeBound)).and <|
    (Record.required "height" (Node.asNatural sizeBound))).map
  fun (name, width, height) => ⟨name, width, height⟩

def decode (n : Node) : Reading Viewport := fields.decode n

end Viewport
end LayoutAudit
