import LayoutAudit.Viewport.Class

/-!
# Script.Step — scenarios as they are written down

* `SnapshotOptions` — the tag and the class of a snapshot;
* `Script.Step`, `Script` — what to do, step by step;
* `encode`, `decode` — the wire form.
-/

namespace LayoutAudit

open Json (Value)
open Wire (Node Reading Record)

structure SnapshotOptions where
  /-- Stands in for the name of the viewport. -/
  viewTag : Option String
  /-- Stands in for the class of the measured width. -/
  viewportClass : Option ViewportClass
  deriving DecidableEq, Repr, Inhabited

namespace SnapshotOptions

def members (o : SnapshotOptions) : List (String × Value) :=
  [("view_tag", .option .string o.viewTag),
   ("viewport_class", .option ViewportClass.encode o.viewportClass)]

def encode (o : SnapshotOptions) : Value := .object o.members

def fieldsWith (decodeClass : Node → Reading ViewportClass) : Record SnapshotOptions :=
  ((Record.optional "view_tag" (Node.asOption Node.asText) none).and
    (Record.optional "viewport_class" (Node.asOption decodeClass) none)).map
  fun (viewTag, viewportClass) => ⟨viewTag, viewportClass⟩

def decode (n : Node) : Reading SnapshotOptions := (fieldsWith ViewportClass.decode).decode n

end SnapshotOptions

inductive Script.Step where
  | navigate (path : String)
  /-- Measures the page and checks a registered spec. -/
  | snapshot (name spec : String) (options : SnapshotOptions)
  deriving DecidableEq, Repr, Inhabited

namespace Script.Step

def encode : Script.Step → Value
  | navigate path => .object [("action", .string "navigate"), ("path", .string path)]
  | snapshot name spec options =>
      .object ([("action", .string "snapshot"), ("name", .string name), ("spec", .string spec)] ++
        options.members)

def actions : List String := ["navigate", "snapshot"]

def fields (action : String) : Record Script.Step :=
  match action with
  | "navigate" => (Record.required "path" Node.asText).map navigate
  | _ =>
      ((Record.required "name" Node.asText).and <|
        (Record.required "spec" Node.asText).and <|
        (SnapshotOptions.fieldsWith ViewportClass.ofSettled)).map
      fun (name, spec, options) => snapshot name spec options

def decode (n : Node) : Reading Script.Step := do
  let (action, rest) ← Wire.Tagged.split "action" actions n
  (fields action).ofSettled rest

end Script.Step

structure Script where
  name : String
  description : String
  steps : List Script.Step
  deriving DecidableEq, Repr, Inhabited

namespace Script

def encode (s : Script) : Value :=
  .object [("name", .string s.name), ("description", .string s.description),
    ("steps", .array (s.steps.map Step.encode))]

def fields : Record Script :=
  ((Record.required "name" Node.asText).and <|
    (Record.optional "description" Node.asText "").and <|
    (Record.required "steps" (Node.asList Step.decode))).map
  fun (name, description, steps) => ⟨name, description, steps⟩

def decode (n : Node) : Reading Script := fields.decode n

end Script
end LayoutAudit
