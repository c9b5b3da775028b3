import LayoutAudit.Spec.Builder

/-!
# Spec.Standard — specs that suit almost any page

* `Standard.pageFrame` — the body is shown, and the page does not scroll sideways;
* `Standard.tapTargets` — controls are tall enough for a finger;
* `Standard.mediaFit` — pictures and the like stay within the view;
* `Standard.all` — the three with their names and descriptions.
-/

namespace LayoutAudit
namespace Standard

open Spec (Builder)

/-- The body is shown, and the page does not scroll sideways. -/
def pageFrame : Spec := Spec.build do
  let body ← Builder.element (.css "body")
  Builder.must (.one (.flagged (.declared body) .visible))
  Builder.mustRef fun context =>
    pure (.one (.measures (.declared .canvas) .width (.atMost context.viewSize.width)))

def leastTapHeight : Float := 24.0

/-- Controls that are shown are tall enough for a finger, except on a desktop. -/
def tapTargets : Spec := Spec.build do
  let controls ← Builder.group (.css "a, button, input, select, textarea")
  Builder.mustRef fun context => do
    if context.viewportClass = .desktop then return .many []
    let shown := (← Query.findAll controls).items.filter (·.visible)
    return .many [.forAll (.group ⟨"visible controls", shown⟩)
      [.measures (.enclosing 0) .height (.atLeast leastTapHeight)]]

/-- The edges of media: left and right are within the view, and the others may be anywhere. -/
def mediaEdges : Edges :=
  let anywhere : Range := .atLeast Coordinate.lowest
  ⟨some anywhere, some (.atLeast 0.0), some anywhere, some (.atLeast 0.0)⟩

/-- Media stay between the left and the right edge of the view. -/
def mediaFit : Spec := Spec.build do
  let media ← Builder.group (.css "img, video, iframe, canvas, svg")
  Builder.must (.one (.forAll (.declared media)
    [.inside (.enclosing 0) (.declared .view) mediaEdges]))

/-- The names of the specs, what they ask for, and the specs. -/
def all : List (String × String × Spec) :=
  [("page-frame", "body is visible and the page has no horizontal overflow", pageFrame),
   ("tap-targets", "visible controls are at least 24px tall on mobile and tablet", tapTargets),
   ("media-fit", "images, video and embeds stay within the viewport width", mediaFit)]

def find? (name : String) : Option Spec := all.lookup name |>.map (·.2)

end Standard
end LayoutAudit
