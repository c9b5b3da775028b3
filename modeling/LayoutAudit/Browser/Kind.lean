import LayoutAudit.Json.Printer
import LayoutAudit.Wire.Record

/-!
# Browser.Kind — the browsers that can be launched

* `BrowserKind` — the browsers by name;
* `LaunchOptions` — what the driver is told when it is started.
-/

namespace LayoutAudit

open Json (Value)
open Wire (Node Reading Record)

inductive BrowserKind where
  | chromium
  | firefox
  | webkit
  deriving DecidableEq, Repr, Inhabited

namespace BrowserKind

def name : BrowserKind → String
  | chromium => "chromium"
  | firefox => "firefox"
  | webkit => "webkit"

def all : List BrowserKind := [chromium, firefox, webkit]

def ofName? (name : String) : Option BrowserKind := all.find? (·.name == name)

def encode (b : BrowserKind) : Value := .string b.name

def decode (n : Node) : Reading BrowserKind := do
  Node.expect (ofName? (← n.asVariant (all.map name)))

end BrowserKind

/-- How a browser is launched, and where the site is. -/
structure LaunchOptions where
  baseUrl : String
  browser : BrowserKind
  headless : Bool
  /-- How long a page may take to load, in milliseconds. -/
  timeout : Nat
  deriving DecidableEq, Repr, Inhabited

namespace LaunchOptions

def standard : LaunchOptions := ⟨"http://127.0.0.1:4173", .chromium, true, 30000⟩

/-- What the driver is told. -/
def arguments (o : LaunchOptions) : Value :=
  .object [("browser", o.browser.encode), ("headless", .bool o.headless),
    ("timeout", .nat o.timeout)]

def fields : Record LaunchOptions :=
  ((Record.optional "base_url" Node.asText standard.baseUrl).and <|
    (Record.optional "browser" BrowserKind.decode standard.browser).and <|
    (Record.optional "headless" Node.asBool standard.headless).and <|
    (Record.optional "timeout" (Node.asNatural UInt64.size) standard.timeout)).map
  fun (baseUrl, browser, headless, timeout) => ⟨baseUrl, browser, headless, timeout⟩

def decode (n : Node) : Reading LaunchOptions := fields.decode n

end LaunchOptions
end LayoutAudit
