import LayoutAudit.Browser.Kind
import LayoutAudit.Failure
import LayoutAudit.Script.Step
import LayoutAudit.Viewport.Catalog
import LayoutAudit.Yaml.Document

/-!
# Settings — what a run is asked to do

* `Settings` — the site, the viewports, the scenarios, and how they are run;
* `Settings.standard` — what holds for all that is not said;
* `Settings.ofYaml` — reads a run file;
* `Settings.catalog`, `Settings.resolveViewports` — the viewports that were asked for;
* `Settings.validate` — contradictions that can be found without a browser.
-/

namespace LayoutAudit

open Json (Value)
open Wire (Node Reading Record)

structure Settings where
  /-- The address of a site that is there already. -/
  baseUrl : Option String
  /-- The directory of a site that is to be served. -/
  serveDir : Option String
  port : Nat
  /-- How many ports are tried, one after the other. -/
  portAttempts : Nat
  /-- The tokens of the viewports. -/
  viewports : List String
  presets : List Viewport
  /-- Groups of presets, sorted by name. -/
  groups : List (String × List String)
  /-- The names of the scenarios; none means all. -/
  scenarios : List String
  workers : Option Nat
  browser : BrowserKind
  headless : Bool
  /-- In milliseconds. -/
  timeout : Nat
  pretty : Bool
  scripts : List Script
  deriving DecidableEq, Repr, Inhabited

namespace Settings

/-- What holds when nothing is said. -/
def standard : Settings where
  baseUrl := none
  serveDir := none
  port := 4173
  portAttempts := 10
  viewports := ["common"]
  presets := []
  groups := []
  scenarios := []
  workers := none
  browser := .chromium
  headless := true
  timeout := 30000
  pretty := false
  scripts := []

def encode (s : Settings) : Value :=
  .object [("base_url", .option .string s.baseUrl), ("serve_dir", .option .string s.serveDir),
    ("port", .nat s.port), ("port_attempts", .nat s.portAttempts),
    ("viewports", .strings s.viewports), ("presets", .array (s.presets.map Viewport.encode)),
    ("groups", .object (s.groups.map fun (name, members) => (name, .strings members))),
    ("scenarios", .strings s.scenarios), ("workers", .option .nat s.workers),
    ("browser", s.browser.encode), ("headless", .bool s.headless),
    ("timeout_ms", .nat s.timeout), ("pretty", .bool s.pretty),
    ("scripts", .array (s.scripts.map Script.encode))]

def word : Node → Reading Nat := Node.asNatural UInt64.size

def texts : Node → Reading (List String) := Node.asList Node.asText

/-- The fields of the wire form; all of them may be missing. -/
def fields : Record Settings :=
  ((Record.optional "base_url" (Node.asOption Node.asText) standard.baseUrl).and <|
    (Record.optional "serve_dir" (Node.asOption Node.asText) standard.serveDir).and <|
    (Record.optional "port" (Node.asNatural UInt16.size) standard.port).and <|
    (Record.optional "port_attempts" word standard.portAttempts).and <|
    (Record.optional "viewports" texts standard.viewports).and <|
    (Record.optional "presets" (Node.asList Viewport.decode) standard.presets).and <|
    (Record.optional "groups" (Node.asEntries texts) standard.groups).and <|
    (Record.optional "scenarios" texts standard.scenarios).and <|
    (Record.optional "workers" (Node.asOption word) standard.workers).and <|
    (Record.optional "browser" BrowserKind.decode standard.browser).and <|
    (Record.optional "headless" Node.asBool standard.headless).and <|
    (Record.optional "timeout_ms" word standard.timeout).and <|
    (Record.optional "pretty" Node.asBool standard.pretty).and <|
    (Record.optional "scripts" (Node.asList Script.decode) standard.scripts)).map
  fun (baseUrl, serveDir, port, portAttempts, viewports, presets, groups, scenarios, workers,
      browser, headless, timeout, pretty, scripts) =>
    ⟨baseUrl, serveDir, port, portAttempts, viewports, presets, groups, scenarios, workers,
      browser, headless, timeout, pretty, scripts⟩

def decode (n : Node) : Reading Settings := fields.decode n

def ofYaml (text : String) : Attempt Settings :=
  (Yaml.decode decode text).mapError fun f => .runFile f.category

/-- The standard catalog with the presets and groups that were asked for. -/
def catalog (s : Settings) : Except TokenError Catalog :=
  s.groups.foldlM (fun c (name, members) => c.addGroup name members)
    (s.presets.foldl Catalog.addPreset .standard)

def resolveViewports (s : Settings) : Except TokenError (List Viewport) := do
  (← s.catalog).expand s.viewports

def validate (s : Settings) : Attempt Unit :=
  if s.baseUrl.isSome && s.serveDir.isSome then .error (.configuration .twoSites)
  else if s.portAttempts = 0 then .error (.configuration .noPortAttempts)
  else if s.workers = some 0 then .error (.configuration .noWorkers)
  else match s.presets.find? fun v => v.width = 0 || v.height = 0 with
    | some v => .error (.viewport ⟨v.name, .notPositive⟩)
    | none => .ok ()

end Settings
end LayoutAudit
