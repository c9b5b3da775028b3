import LayoutAudit.Run.Clock

/-!
# Run.Rehearsal — a run with a browser that follows rules

* `Rehearsal.Rule`, `Rehearsal.Rules` — how calls are answered, and when, in milliseconds;
* `Rehearsal.Event` — the calls as they come;
* `Run.rehearse` — the events of a run and its result.
-/

namespace LayoutAudit
namespace Rehearsal

open Clock (Response)
open Wire (Node Reading Record)

structure Rule where
  /-- The name of the viewport that the rule is for. -/
  viewport : Option String
  /-- The path that the rule is for. -/
  path : Option String
  /-- How long the answer takes. -/
  delay : Nat
  /-- Why the call fails, if it does. -/
  fault : Option String
  /-- A failing call says that navigating failed. -/
  blamesNavigation : Bool
  /-- What is measured. -/
  measurement : Option Measurement
  deriving Inhabited

/-- The rules for each kind of call; the first that applies is used. -/
structure Rules where
  onOpen : List Rule
  onNavigate : List Rule
  onMeasure : List Rule
  onClose : List Rule
  deriving Inhabited

def decodeMeasurement : Node → Reading Measurement
  | .string text => Measurement.read text
  | n => Measurement.decode n

def Rule.fields : Record Rule :=
  let text (name : String) : Record (Option String) :=
    .optional name (Node.asOption Node.asText) none
  ((text "viewport").and <| (text "path").and <|
    (Record.optional "delay" (Node.asNatural UInt64.size) 0).and <|
    (text "error").and <| (text "kind").and <|
    (Record.optional "measurement" (Node.asOption decodeMeasurement) none)).map
  fun (viewport, path, delay, fault, kind, measurement) =>
    ⟨viewport, path, delay, fault, kind == some "navigation", measurement⟩

def Rules.fields : Record Rules :=
  let rules (name : String) : Record (List Rule) :=
    .optional name (Node.asList Rule.fields.decode) []
  ((rules "open").and <| (rules "navigate").and <| (rules "measure").and <| (rules "close")).map
  fun (onOpen, onNavigate, onMeasure, onClose) => ⟨onOpen, onNavigate, onMeasure, onClose⟩

def Rules.decode (n : Node) : Reading Rules := Rules.fields.decode n

structure Event where
  time : Nat
  call : String
  viewport : String
  /-- Where the page is or should go; a page that is being opened is nowhere. -/
  path : Option String
  deriving DecidableEq, Repr

def Rules.on (rules : Rules) : Call → List Rule
  | .openPage _ => rules.onOpen
  | .navigate _ => rules.onNavigate
  | .measure _ => rules.onMeasure
  | .close => rules.onClose

def Rule.applies (rule : Rule) (viewport path : String) : Bool :=
  rule.viewport.all (· == viewport) && rule.path.all (· == path)

/-- What a page is like when no rule says so: it holds nothing. -/
def blankPage (viewport : Viewport) : Measurement :=
  let frame : Rect := ⟨0.0, 0.0, Float.ofNat viewport.width, Float.ofNat viewport.height⟩
  ⟨.empty, .shownAt "view" frame, .shownAt "canvas" frame⟩

def Rule.failure? (rule : Rule) (path : String) : Option Failure :=
  rule.fault.map fun reason =>
    if rule.blamesNavigation then .navigation path reason else .driver (.reported reason)

/-- The place that a call is about, given where the page is. -/
def target (current : String) : Call → String
  | .openPage _ => ""
  | .navigate path => path
  | .measure _ => current
  | .close => current

def Rules.respond (rules : Rules) (viewport : Viewport) (current : String) (call : Call) :
    Response :=
  let path := target current call
  match (rules.on call).find? fun rule => rule.applies viewport.name path with
  | some rule =>
      ⟨rule.delay, rule.failure? path, rule.measurement.getD (blankPage viewport)⟩
  | none => ⟨0, none, blankPage viewport⟩

structure Notes where
  /-- Where the page of each worker is. -/
  paths : List String
  /-- The calls, the latest first. -/
  events : List Event

def pathAfter (current : String) (call : Call) (r : Response) : String :=
  match call with
  | .openPage _ => ""
  | .navigate path => if r.failure.isNone then path else current
  | _ => current

def eventOf (time : Nat) (viewport : Viewport) (current : String) (call : Call) : Event :=
  let path := match call with
    | .openPage _ => none
    | call => some (target current call)
  ⟨time, call.name, viewport.name, path⟩

def Rules.world (rules : Rules) : Clock.World Notes := fun time worker entry call notes =>
  let current := notes.paths[worker]?.getD ""
  let response := rules.respond entry.viewport current call
  (response, {
    paths := notes.paths.set worker (pathAfter current call response)
    events := eventOf time entry.viewport current call :: notes.events })

end Rehearsal

namespace Run

/-- The result of a run with a browser that follows rules, and its calls. -/
def rehearse (run : Run) (rules : Rehearsal.Rules) (processors : Nat) :
    Attempt Outcome × List Rehearsal.Event :=
  let paths := List.replicate (run.workers processors) ""
  let (result, notes) := run.clocked rules.world processors ⟨paths, []⟩
  (result, notes.events.reverse)

end Run
end LayoutAudit
