import LayoutAudit.Json.Printer
import LayoutAudit.Range
import LayoutAudit.Viewport.Class
import LayoutAudit.Violation

/-!
# Report — what one evaluation found

* `Report` — the violations of one spec on one measurement, with the names of the occasion;
* `Report.isClean`, `Report.summary`;
* `encode`, `decode` — the wire form;
* `Report.writeAll` — reports as lines of text.
-/

namespace LayoutAudit

open Json (Value)
open Wire (Node Reading Record)

/-- The result of one evaluation. -/
structure Report where
  scenario : String
  snapshot : String
  viewTag : Option String
  viewSize : ViewSize
  viewportClass : ViewportClass
  violations : List Violation
  deriving BEq, Inhabited

namespace Report

/-- Nothing was found. -/
def isClean (r : Report) : Bool := r.violations.isEmpty

def summary (r : Report) : String :=
  let tag := match r.viewTag with
    | some tag => " [" ++ tag ++ "]"
    | none => ""
  let outcome :=
    if r.isClean then "ok" else toString r.violations.length ++ " violation(s)"
  r.scenario ++ "/" ++ r.snapshot ++ tag ++ " @ " ++ numberText r.viewSize.width ++ "x" ++
    numberText r.viewSize.height ++ " (" ++ r.viewportClass.name ++ "): " ++ outcome

/-- The wire form; the tag is written only if there is one. -/
def encode (r : Report) : Value :=
  .object ([("scenarioName", .string r.scenario), ("snapshotName", .string r.snapshot)] ++
    (match r.viewTag with
    | some tag => [("viewTag", .string tag)]
    | none => []) ++
    [("viewSize", r.viewSize.encode), ("viewportClass", r.viewportClass.encode),
     ("violations", .array (r.violations.map Violation.encode))])

def fields : Record Report :=
  ((Record.required "scenarioName" Node.asText).and <|
    (Record.required "snapshotName" Node.asText).and <|
    (Record.optional "viewTag" (Node.asOption Node.asText) none).and <|
    (Record.required "viewSize" ViewSize.decode).and <|
    (Record.required "viewportClass" ViewportClass.decode).and <|
    (Record.required "violations" (Node.asList Violation.decode))).map
  fun (scenario, snapshot, viewTag, viewSize, viewportClass, violations) =>
    ⟨scenario, snapshot, viewTag, viewSize, viewportClass, violations⟩

def decode (n : Node) : Reading Report := fields.decode n

def text (pretty : Bool) (r : Report) : String :=
  if pretty then r.encode.pretty else r.encode.compact

/-- The text of one report, with a line break behind it. -/
def write (pretty : Bool) (r : Report) : String := r.text pretty ++ "\n"

def writeAll (pretty : Bool) (reports : List Report) : String :=
  String.join (reports.map (write pretty))

def anyDirty (reports : List Report) : Bool := reports.any (!·.isClean)

end Report
end LayoutAudit
