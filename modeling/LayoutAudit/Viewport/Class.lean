import LayoutAudit.Text.Character
import LayoutAudit.Json.Value
import LayoutAudit.Wire.Record

/-!
# Viewport.Class — coarse classes of viewport widths

* `ViewportClass` — mobile, tablet, desktop; `ViewportClass.ofWidth`;
* `ViewportClass.parse` — a class from a text, regardless of case and surrounding blanks;
* `ViewSize` — the size of a viewport as it was measured.
-/

namespace LayoutAudit

open Json (Value)
open Wire (Node Reading Record)

/-- A coarse class of viewports. -/
inductive ViewportClass where
  | mobile
  | tablet
  | desktop
  deriving DecidableEq, Repr, Inhabited

namespace ViewportClass

/-- Widths below this are mobile. -/
def tabletFrom : Float := 768.0

/-- Widths from here on are desktop. -/
def desktopFrom : Float := 1024.0

/-- The class of a width; what is undefined is below no bound. -/
def ofWidth (width : Float) : ViewportClass :=
  if width < tabletFrom then .mobile else if width < desktopFrom then .tablet else .desktop

def name : ViewportClass → String
  | mobile => "mobile"
  | tablet => "tablet"
  | desktop => "desktop"

def names : List String := ["mobile", "tablet", "desktop"]

def ofName? : String → Option ViewportClass
  | "mobile" => some mobile
  | "tablet" => some tablet
  | "desktop" => some desktop
  | _ => none

theorem ofName?_name (c : ViewportClass) : ofName? c.name = some c := by cases c <;> rfl

/-- A text that names no class, trimmed and in lower case. -/
structure Unknown where
  text : String
  deriving DecidableEq, Repr

def Unknown.message (u : Unknown) : String :=
  "Unknown viewport class: " ++ u.text ++ " (expected mobile, tablet or desktop)"

def parse (text : String) : Except Unknown ViewportClass :=
  let word := (Text.trim text).toLower
  match ofName? word with
  | some c => .ok c
  | none => .error ⟨word⟩

def encode (c : ViewportClass) : Value := .string c.name

def decode (n : Node) : Reading ViewportClass := do
  Node.expect (ofName? (← n.asVariant names))

def ofSettled (n : Node) : Reading ViewportClass := do
  Node.expect (ofName? (← n.settledVariant names))

end ViewportClass

/-- The size of a viewport in CSS pixels. -/
structure ViewSize where
  width : Float
  height : Float
  deriving BEq, Inhabited

namespace ViewSize

def encode (s : ViewSize) : Value :=
  .object [("width", .float s.width), ("height", .float s.height)]

def fields : Record ViewSize :=
  ((Record.required "width" Node.asFloat).and (Record.required "height" Node.asFloat)).map
    fun (width, height) => ⟨width, height⟩

def decode (n : Node) : Reading ViewSize := fields.decode n

end ViewSize
end LayoutAudit
