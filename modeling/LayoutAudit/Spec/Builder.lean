import LayoutAudit.Spec

/-!
# Spec.Builder — a session that builds a spec

Declaring a reference gives it the next free key of the session.  Elements and groups share one
counter, so no two references of a session have the same key.

* `Spec.Builder` — the session, a state that only grows;
* `Builder.element`, `Builder.group` — declaring references;
* `Builder.must`, `Builder.mustRef` — registering constraints;
* `Spec.build` — the spec of a session.
-/

namespace LayoutAudit
namespace Spec

/-- A session: what has been declared and registered so far. -/
structure Session where
  /-- The number of keys that were given out. -/
  keys : Nat
  spec : Spec

abbrev Builder (α : Type) := StateM Session α

namespace Session

def start : Session := ⟨0, ⟨[], [], [], []⟩⟩

/-- The key of an element that was declared as the `n`-th reference. -/
def elementKey (n : Nat) : String := "el-" ++ toString n

/-- The key of a group that was declared as the `n`-th reference. -/
def groupKey (n : Nat) : String := "group-" ++ toString n

def declareElement (s : Session) (selector : Selector) : Session :=
  let d : Declaration := ⟨elementKey (s.keys + 1), selector⟩
  ⟨s.keys + 1, { s.spec with elements := s.spec.elements ++ [d] }⟩

/-- Declares a group; one that holds a frame is kept apart. -/
def declareGroup (s : Session) (selector : Selector) : Session :=
  let d : Declaration := ⟨groupKey (s.keys + 1), selector⟩
  if selector.isFrame then ⟨s.keys + 1, { s.spec with frameGroups := s.spec.frameGroups ++ [d] }⟩
  else ⟨s.keys + 1, { s.spec with groups := s.spec.groups ++ [d] }⟩

def register (s : Session) (factory : Factory) : Session :=
  { s with spec := { s.spec with factories := s.spec.factories ++ [factory] } }

end Session

namespace Builder

/-- Declares a reference to one element.  A frame has its reference already, and takes no key. -/
def element (selector : Selector) : Builder ElementRef := fun s =>
  match selector with
  | .view => (.view, s)
  | .canvas => (.canvas, s)
  | selector => (⟨Session.elementKey (s.keys + 1)⟩, s.declareElement selector)

/-- Declares a reference to all elements that a selector finds. -/
def group (selector : Selector) : Builder GroupRef := fun s =>
  (⟨Session.groupKey (s.keys + 1)⟩, s.declareGroup selector)

/-- Registers constraints that depend on the occasion. -/
def mustRef (factory : Factory) : Builder Unit := fun s => ((), s.register factory)

def must (constraints : Bundle) : Builder Unit := mustRef fun _ => pure constraints

end Builder

def build {α : Type} (define : Builder α) : Spec := (define Session.start).2.spec

end Spec
end LayoutAudit
