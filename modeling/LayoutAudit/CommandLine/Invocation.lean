import LayoutAudit.CommandLine.Words
import LayoutAudit.Settings.Overlay

/-!
# CommandLine.Invocation — what the program is asked to do

* `Invocation` — a command with all that was said about it;
* `Invocation.ofWords` — reads a command line; the environment speaks where the words are silent;
* `Invocation.runFile?` — the run file that is read.
-/

namespace LayoutAudit
namespace CommandLine

open Words (Said Stop)

structure Invocation where
  command : Command
  config : Option String
  format : Listing.Format
  overlay : Overlay
  groups : Bool
  resolve : Bool
  deriving Inhabited

namespace Invocation

def configVariable : String := "LAYOUTCHECK_CONFIG"

def baseUrlVariable : String := "LAYOUTCHECK_BASE_URL"

def standardRunFile : String := "layoutcheck.yaml"

/-- The values of a flag, in the order in which they came. -/
def values (said : Said) (flag : Flag) : List String :=
  (said.filter (·.1 == flag)).reverse.map (·.2)

def value? (said : Said) (flag : Flag) : Option String := said.lookup flag

def has (said : Said) (flag : Flag) : Bool := said.any (·.1 == flag)

/-- A flag that is not given may be given by the environment. -/
def withVariable (flag : Flag) (given : Option String) (said : Said) : Except Stop Said :=
  if has said flag then .ok said
  else
    match given with
    | none => .ok said
    | some value => if flag.accepts value then .ok ((flag, value) :: said) else .error .misused

def overlayOf (said : Said) : Overlay where
  viewports := (values said .viewports).flatMap (·.splitOn ",")
  scenarios := values said .scenario
  workers := (value? said .workers).bind Flag.workers?
  serve := value? said .serve
  baseUrl := value? said .baseUrl
  port := (value? said .port).bind Flag.port?
  browser := (value? said .browser).bind BrowserKind.ofName?
  headed := has said .headed
  pretty := has said .pretty

def ofWords (environment : String → Option String) (words : List String) :
    Except Stop Invocation := do
  let config? := environment configVariable
  let (before, found) ← Words.read Words.outer none [] words
  match found with
  | none => .error (if before.isEmpty ∧ config?.isNone then .unsaid else .misused)
  | some (command, rest) =>
      let (behind, _) ← Words.read (Words.inner command) none [] rest
      let site? := if command.flags.contains .baseUrl then environment baseUrlVariable else none
      let behind ← withVariable .baseUrl site? behind
      if has behind .serve ∧ has behind .baseUrl then .error .misused
      let _ ← withVariable .config config? behind
      let _ ← withVariable .config config? before
      let said := behind ++ before
      return {
        command := command
        config := (value? said .config).or config?
        format := ((value? said .format).bind Flag.format?).getD default
        overlay := overlayOf behind
        groups := has behind .groups
        resolve := has behind .resolve }

/-- The run file that is read: the one that is named, or the standard one if it is there.  Listing
the standard specs needs none. -/
def runFile? (i : Invocation) (isThere : String → Bool) : Option String :=
  match i.command, i.config with
  | .specs, _ => none
  | _, some path => some path
  | _, none => if isThere standardRunFile then some standardRunFile else none

end Invocation
end CommandLine
end LayoutAudit
