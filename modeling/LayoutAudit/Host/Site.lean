import LayoutAudit.Browser.Kind
import LayoutAudit.Dom.Sheet
import LayoutAudit.Host.Handler
import LayoutAudit.Json.Plain
import LayoutAudit.Session.Peer

/-!
# Host.Site — a driver with a browser that shows given pages

* `Host.Site` — the pages that can be gone to, and the faults of the browser;
* `Host.Notice` — what the browser was made to do;
* `Host.Stage` — the driver and its browser;
* `Site.decode` — reads the wire form of a site;
* `Site.respond` — a command, from its coming to its answer;
* `Site.peer` — the driver as a run talks to it.
-/

namespace LayoutAudit
namespace Host

open Json (Value)
open Session (Command)
open Wire (Node Reading Record)

/-- The pages that can be gone to, and the faults of the browser. -/
structure Site where
  sheets : List (String × Dom.Sheet)
  launchError : Option String
  contextError : Option String
  closeError : Option String
  deriving Inhabited

/-- What the browser was made to do. -/
inductive Notice where
  | launched (browser : BrowserKind) (headless : Bool)
  | opened (width height : Nat)
  | wentTo (url : String) (timeout : Nat)
  /-- A page was closed; `none` if it had not gone anywhere. -/
  | closed (url : Option String)
  | left
  deriving DecidableEq, Repr

namespace Notice

def encode : Notice → Value
  | launched browser headless =>
      .array [.string "launch", browser.encode, .object [("headless", .bool headless)]]
  | opened width height =>
      .array [.string "newContext",
        .object [("viewport", .object [("height", .nat height), ("width", .nat width)])]]
  | wentTo url timeout =>
      .array [.string "goto", .string url,
        .object [("timeout", .nat timeout), ("waitUntil", .string "load")]]
  | closed url => .array [.string "closeContext", .option .string url]
  | left => .array [.string "closeBrowser"]

end Notice

structure Tab where
  width : Nat
  height : Nat
  url : Option String
  page : Dom.Page
  deriving Inhabited

structure Stage where
  options : LaunchOptions
  handler : Handler Nat
  /-- All pages that were ever opened. -/
  tabs : List Tab
  notices : List Notice

namespace Site

def fields : Record Site :=
  let error (name : String) : Record (Option String) :=
    .optional name (Node.asOption Node.asText) none
  ((Record.optional "pages" (Node.asEntries Dom.Sheet.decode) []).and <|
    (error "launch_error").and <| (error "context_error").and <| (error "close_error")).map
  fun (sheets, launchError, contextError, closeError) => ⟨sheets, launchError, contextError, closeError⟩

def decode (n : Node) : Reading Site := fields.decode n

def launched (options : LaunchOptions) : Stage :=
  ⟨options, .start, [], [.launched options.browser options.headless]⟩

/-- The text of an error; one without a message is called an error. -/
def errorText (message : String) : String := if message.isEmpty then "Error" else message

def measure (page : Dom.Page) (input : Value) : Except String Value := do
  let declared (name : String) : Except String (List Declaration) :=
    match input.member? name with
    | some (.array items) =>
        (items.mapM fun d => Declaration.decode (Node.ofValue d)).mapError fun _ => "no declaration"
    | _ => .ok []
  return (← page.capture (← declared "elements") (← declared "groups")).encode.plain

/-- The browser does a task.  A context and its page have the same number. -/
def perform (site : Site) (s : Stage) : Task Nat → Result Nat × Stage
  | .newContext width height =>
      let s := { s with notices := s.notices ++ [.opened width height] }
      match site.contextError with
      | some message => (.failed (errorText message), s)
      | none =>
          let tab : Tab := ⟨width, height, none, Dom.Sheet.blank.page width height⟩
          (.gave s.tabs.length, { s with tabs := s.tabs ++ [tab] })
  | .newPage i => (.gave i, s)
  | .goto i url =>
      let s := { s with notices := s.notices ++ [.wentTo url s.options.timeout] }
      match site.sheets.lookup url with
      | some sheet =>
          let move (tab : Tab) : Tab :=
            { tab with url := some url, page := sheet.page tab.width tab.height }
          (.done, { s with tabs := s.tabs.modify i move })
      | none => (.failed ("net::ERR_NOT_FOUND at " ++ url), s)
  | .measure i input =>
      let page := ((s.tabs[i]?).getD default).page
      match measure page input with
      | .ok m => (.measured m, s)
      | .error message => (.failed (errorText message), s)
  | .closeContext i =>
      let url := (s.tabs[i]?).bind Tab.url
      let s := { s with notices := s.notices ++ [.closed url] }
      match site.closeError with
      | some message => (.failed message, s)
      | none => (.done, s)

/-- The driver goes on with a request until it answers, with at most so many tasks more. -/
def follow (site : Site) : (tasks : Nat) → Event Nat → Stage → Option Answer × Stage
  | tasks, event, s =>
      match s.handler.step event, tasks with
      | (some (.answers answer), handler), _ => (some answer, { s with handler := handler })
      | (some (.asks task), handler), tasks + 1 =>
          let (result, s) := site.perform { s with handler := handler } task
          site.follow tasks (.settled event.id result) s
      | (_, handler), _ => (none, { s with handler := handler })

/-- Carries out a command, from its coming to its answer.  To open a page takes two tasks, and any
other command takes one at most. -/
def respond (site : Site) (id : Nat) (command : Command) (s : Stage) : Option Answer × Stage :=
  match site.launchError with
  | some message => (some (.failed (errorText message)), s)
  | none => site.follow 2 (.told id command) s

/-- The input of the driver was closed: the browser is closed. -/
def leave (site : Site) (s : Stage) : Stage :=
  if site.launchError.isSome then s else { s with notices := s.notices ++ [.left] }

def peer (site : Site) : Session.Peer Stage where
  start? := fun options => some (launched options)
  respond := fun id command s =>
    let (answer, s) := site.respond id command s
    (⟨answer.toList.map (·.line id), false⟩, s)
  leave := site.leave

end Site
end Host
end LayoutAudit
