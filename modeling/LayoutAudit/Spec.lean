import LayoutAudit.Constraint
import LayoutAudit.Measurement
import LayoutAudit.Viewport.Class

/-!
# Spec — declared references and the constraints on them

A spec declares what is to be measured and registers factories of constraints.  A factory sees the
occasion of each evaluation and may look references up before it answers.

* `Context` — the occasion as a factory sees it;
* `Factory` — constraints that depend on the occasion;
* `Spec` — the declarations and the factories, in order;
* `Spec.selector?`, `Spec.label` — what is behind a key;
* `Spec.measureInput` — the declarations that are handed to whoever measures.
-/

namespace LayoutAudit

open Json (Value)

/-- What a factory knows about the evaluation at hand. -/
structure Context where
  viewSize : ViewSize
  viewportClass : ViewportClass
  scenario : String
  snapshot : String
  viewTag : Option String
  deriving Inhabited

/-- Constraints that depend on the occasion. -/
abbrev Factory := Context → Query Bundle

structure Spec where
  /-- The references to single elements. -/
  elements : List Declaration
  /-- The references to groups of elements. -/
  groups : List Declaration
  /-- The groups that hold one of the frames; they are never measured. -/
  frameGroups : List Declaration
  factories : List Factory
  deriving Inhabited

namespace Spec

def declarations (s : Spec) : List Declaration :=
  ⟨viewKey, .view⟩ :: ⟨canvasKey, .canvas⟩ :: (s.elements ++ s.groups ++ s.frameGroups)

def selector? (s : Spec) (key : String) : Option Selector :=
  (s.declarations.find? (·.key == key)).map (·.selector)

/-- The label of a key in messages: that of its selector, or else the key itself. -/
def label (s : Spec) (key : String) : String := ((s.selector? key).map Selector.label).getD key

def measureInput (s : Spec) : Value :=
  .object [("elements", .array (s.elements.map Declaration.encode)),
    ("groups", .array (s.groups.map Declaration.encode))]

/-- The violations on an occasion, one factory after the other. -/
def inspect (s : Spec) (context : Context) : Query (List Violation) := do
  let found ← Query.traverse
    (fun factory => do Constraint.checkAll [] (← factory context).flatten) s.factories
  return found.flatten

end Spec

def Selector.debugText : Selector → String
  | css query => "Css(" ++ Text.quoted query ++ ")"
  | xpath query => "XPath(" ++ Text.quoted query ++ ")"
  | view => "View"
  | canvas => "Canvas"

def Declaration.debugText (d : Declaration) : String :=
  "Declaration \x7b key: RefKey(" ++ Text.quoted d.key ++ "), selector: " ++ d.selector.debugText ++
    " \x7d"

def Spec.debugText (s : Spec) : String :=
  let list (ds : List Declaration) : String :=
    "[" ++ ", ".intercalate (ds.map Declaration.debugText) ++ "]"
  "LayoutSpec \x7b elements: " ++ list s.elements ++ ", groups: " ++ list s.groups ++
    ", factories: " ++ toString s.factories.length ++ " \x7d"

end LayoutAudit
