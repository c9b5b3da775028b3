import LayoutAudit.Viewport.Token

/-!
# Failure — why a run does not come about

Failed constraints are no failures: they are violations in reports.  A failure ends a run, or keeps
it from beginning.

* `Misconfiguration` — contradictions in what was asked for;
* `DriverFault` — what can go wrong between the run and the browser;
* `Failure` — all failures, with `Failure.message`;
* `Failure.isConfiguration` — those that are found before any page is opened.
-/

namespace LayoutAudit

inductive Misconfiguration where
  | specTwice (name : String)
  | scenarioTwice (name : String)
  | noSteps (scenario : String)
  | noViewports
  | twoSites
  | noSite
  | noDirectory (path : String)
  | noPortAttempts
  | noWorkers
  deriving DecidableEq, Repr

def Misconfiguration.text : Misconfiguration → String
  | specTwice name => "spec '" ++ name ++ "' registered twice"
  | scenarioTwice name => "scenario '" ++ name ++ "' registered twice"
  | noSteps scenario => "scenario '" ++ scenario ++ "' has no steps"
  | noViewports => "no viewports selected"
  | twoSites => "base_url and serve_dir are mutually exclusive"
  | noSite => "either base_url or serve_dir is required"
  | noDirectory path => "static directory " ++ path ++ " does not exist"
  | noPortAttempts => "port_attempts must be at least 1"
  | noWorkers => "workers must be at least 1"

inductive DriverFault where
  /-- The browser says what is wrong. -/
  | reported (message : String)
  /-- The browser refuses without a word. -/
  | refused
  /-- The driver ended before it answered. -/
  | lost
  /-- The driver had ended before. -/
  | gone
  /-- The driver was told to end before. -/
  | shutDown
  | noPage
  | noMeasurement (viewport : Viewport)
  deriving DecidableEq, Repr

def DriverFault.text : DriverFault → String
  | reported message => message
  | refused => "driver reported an error"
  | lost => "driver exited before replying"
  | gone => "driver has exited"
  | shutDown => "driver is shut down"
  | noPage => "open returned no page id"
  | noMeasurement viewport => "no measurement returned at " ++ viewport.text

inductive Failure where
  | configuration (cause : Misconfiguration)
  | viewport (cause : TokenError)
  | unknownScenario (name : String)
  | unknownSpec (name : String)
  | noScenarios
  | browserMissing
  | driver (cause : DriverFault)
  | navigation (path reason : String)
  | portsExhausted (preferred attempts : Nat)
  /-- A port cannot be had, for a reason that the system gives. -/
  | bind (port : Nat) (reason : String)
  /-- The system refuses a file or a pipe. -/
  | system (reason : String)
  | runFile (reason : String)
  deriving DecidableEq, Repr

namespace Failure

def message : Failure → String
  | configuration cause => "Invalid configuration: " ++ cause.text
  | viewport cause => cause.message
  | unknownScenario name => "Unknown scenario: " ++ name
  | unknownSpec name => "Unknown spec: " ++ name
  | noScenarios => "No scenarios registered"
  | browserMissing => "Playwright not found. Install with: npx playwright install"
  | driver cause => "Playwright error: " ++ cause.text
  | navigation path reason => "Navigation to '" ++ path ++ "' failed: " ++ reason
  | portsExhausted preferred attempts =>
      "No free port starting at " ++ toString preferred ++ " after " ++ toString attempts ++
        " attempts"
  | bind port reason => "Failed to bind 127.0.0.1:" ++ toString port ++ ": " ++ reason
  | system reason => "IO error: " ++ reason
  | runFile reason => "YAML error: " ++ reason

/-- Is it a matter of what was asked for?  Such failures come before any page is opened. -/
def isConfiguration : Failure → Bool
  | configuration _ => true
  | viewport _ => true
  | unknownScenario _ => true
  | unknownSpec _ => true
  | noScenarios => true
  | _ => false

end Failure

/-- A step that may fail. -/
abbrev Attempt (α : Type) := Except Failure α

end LayoutAudit
