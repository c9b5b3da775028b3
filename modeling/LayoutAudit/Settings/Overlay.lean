import LayoutAudit.Registry
import LayoutAudit.Settings

/-!
# Settings.Overlay — settings that take the place of others

* `Overlay` — the settings that were given a second time;
* `Overlay.apply` — puts them in place; of the two ways to name a site the one given last counts;
* `Settings.withScript` — a run has at least one script;
* `Settings.overlaidWith`, `Settings.load` — the settings that a run is made with.
-/

namespace LayoutAudit

open Wire (Node Reading Record)

/-- Settings that take the place of those of a run file. -/
structure Overlay where
  viewports : List String
  scenarios : List String
  workers : Option Nat
  serve : Option String
  baseUrl : Option String
  port : Option Nat
  browser : Option BrowserKind
  headed : Bool
  pretty : Bool
  deriving DecidableEq, Repr, Inhabited

namespace Overlay

def none : Overlay := ⟨[], [], .none, .none, .none, .none, .none, false, false⟩

/-- The site: an address goes before a directory, and each of them replaces both. -/
def site (o : Overlay) (s : Settings) : Option String × Option String :=
  match o.baseUrl, o.serve with
  | some url, _ => (some url, .none)
  | .none, some dir => (.none, some dir)
  | .none, .none => (s.baseUrl, s.serveDir)

def apply (o : Overlay) (s : Settings) : Settings :=
  { s with
    baseUrl := (o.site s).1
    serveDir := (o.site s).2
    port := o.port.getD s.port
    viewports := if o.viewports.isEmpty then s.viewports else o.viewports
    scenarios := if o.scenarios.isEmpty then s.scenarios else o.scenarios
    workers := o.workers.or s.workers
    browser := o.browser.getD s.browser
    headless := s.headless && !o.headed
    pretty := s.pretty || o.pretty }

def fields : Record Overlay :=
  let perhaps {α : Type} (name : String) (decode : Node → Reading α) : Record (Option α) :=
    .optional name (Node.asOption decode) .none
  let texts (name : String) : Record (List String) :=
    .optional name (Node.asList Node.asText) []
  let switch (name : String) : Record Bool :=
    (perhaps name Node.asBool).map (·.getD false)
  ((texts "viewports").and <| (texts "scenarios").and <|
    (perhaps "workers" (Node.asNatural UInt64.size)).and <|
    (perhaps "serve" Node.asText).and <| (perhaps "base_url" Node.asText).and <|
    (perhaps "port" (Node.asNatural UInt16.size)).and <|
    (perhaps "browser" BrowserKind.decode).and <|
    (switch "headed").and <| (switch "pretty")).map
  fun (viewports, scenarios, workers, serve, baseUrl, port, browser, headed, pretty) =>
    ⟨viewports, scenarios, workers, serve, baseUrl, port, browser, headed, pretty⟩

def decode (n : Node) : Reading Overlay := fields.decode n

end Overlay

namespace Settings

/-- The settings with the standard script, if they have none of their own. -/
def withScript (s : Settings) : Settings :=
  if s.scripts.isEmpty then { s with scripts := [Standard.script] } else s

def overlaidWith (s : Settings) (o : Overlay) : Settings := (o.apply s).withScript

/-- The settings of a run: those of the run file, if there is one, under an overlay. -/
def load (runFile : Option String) (o : Overlay) : Attempt Settings := do
  let s ← match runFile with
    | some text => ofYaml text
    | none => pure standard
  return s.overlaidWith o

end Settings
end LayoutAudit
