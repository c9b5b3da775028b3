import LayoutAudit.Spec

/-!
# Scope — what references stand for

A reference stands for what was measured under its key.  References to the frames stand for the
frames, and an element that was not found is replaced by a stand-in that says so.

Within one evaluation a reference is resolved when it is first looked up, and every later lookup
gets the same instance.  Instances are numbered, so that holding the same one can be told from
holding an equal one.

* `Spec.elementIn`, `Spec.groupIn` — what a reference stands for in a measurement;
* `Spec.violationsIn` — the violations of a spec when every reference is resolved anew;
* `Instance` — a value with the number of the instance;
* `Scope` — a measurement and the instances that were given out;
* `Scope.element`, `Scope.group` — looking up;
* `Scope.run` — running a query.
-/

namespace LayoutAudit

namespace Spec

/-- The element of a reference: a frame, or else the first one that was found. -/
def elementIn (s : Spec) (m : Measurement) (ref : ElementRef) : Element :=
  if ref.key = viewKey then m.view
  else if ref.key = canvasKey then m.canvas
  else (m.store.get ref.key).head?.getD (.missing (s.label ref.key))

/-- The group of a reference: all elements that were found, or the frame that was asked for. -/
def groupIn (s : Spec) (m : Measurement) (ref : GroupRef) : Group :=
  match s.selector? ref.key with
  | some .view => ⟨"view", [m.view]⟩
  | some .canvas => ⟨"canvas", [m.canvas]⟩
  | _ => ⟨s.label ref.key, m.store.get ref.key⟩

/-- The violations of a spec on a measurement. -/
def violationsIn (s : Spec) (m : Measurement) (context : Context) : List Violation :=
  (s.inspect context).answer (s.elementIn m) (s.groupIn m)

end Spec

/-! ## References that are resolved once -/

/-- A value that several holders share. -/
structure Instance (α : Type) where
  number : Nat
  value : α
  deriving Inhabited

structure SharedGroup where
  selector : String
  items : List (Instance Element)
  deriving Inhabited

def SharedGroup.toGroup (g : SharedGroup) : Group := ⟨g.selector, g.items.map (·.value)⟩

structure Scope where
  spec : Spec
  measurement : Measurement
  view : Instance Element
  canvas : Instance Element
  /-- The number of the next instance. -/
  next : Nat
  elements : List (String × Instance Element)
  groups : List (String × Instance SharedGroup)

namespace Scope

/-- A scope in which only the frames are resolved. -/
def start (spec : Spec) (m : Measurement) : Scope :=
  ⟨spec, m, ⟨0, m.view⟩, ⟨1, m.canvas⟩, 2, [], []⟩

def element (ref : ElementRef) : StateM Scope (Instance Element) := fun s =>
  if ref.key = viewKey then (s.view, s)
  else if ref.key = canvasKey then (s.canvas, s)
  else match s.elements.lookup ref.key with
    | some found => (found, s)
    | none =>
        let found : Instance Element := ⟨s.next, s.spec.elementIn s.measurement ref⟩
        (found, { s with next := s.next + 1, elements := (ref.key, found) :: s.elements })

/-- Numbers instances from `first` on. -/
def instances (first : Nat) (es : List Element) : List (Instance Element) :=
  (es.zipIdx first).map fun (e, n) => ⟨n, e⟩

/-- The group of a reference, with instances from `first` on; a frame is the frame itself. -/
def sharedGroup (s : Scope) (first : Nat) (ref : GroupRef) : SharedGroup :=
  match s.spec.selector? ref.key with
  | some .view => ⟨"view", [s.view]⟩
  | some .canvas => ⟨"canvas", [s.canvas]⟩
  | _ => ⟨s.spec.label ref.key, instances first (s.measurement.store.get ref.key)⟩

def group (ref : GroupRef) : StateM Scope (Instance SharedGroup) := fun s =>
  match s.groups.lookup ref.key with
  | some found => (found, s)
  | none =>
      let g := s.sharedGroup (s.next + 1) ref
      let found : Instance SharedGroup := ⟨s.next, g⟩
      (found,
        { s with next := s.next + 1 + g.items.length, groups := (ref.key, found) :: s.groups })

def run {α : Type} : Query α → StateM Scope α
  | .done a => pure a
  | .element ref next => do run (next (← element ref).value)
  | .group ref next => do run (next (← group ref).value.toGroup)

end Scope
end LayoutAudit
