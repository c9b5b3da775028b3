import LayoutAudit.CommandLine.Invocation
import LayoutAudit.CommandLine.Printing
import LayoutAudit.Run.Performance
import LayoutAudit.Spec.Standard

/-!
# CommandLine.Execution — doing what was asked

* `Mishap` — why a command was not carried out, with its text;
* `Output` — what the program prints, and how it exits;
* `Execution.command` — carries out a command;
* `Execution.stopped` — what comes of a command line that names nothing to carry out.
-/

namespace LayoutAudit
namespace CommandLine

inductive Mishap where
  | failed (cause : Failure)
  /-- The run file could not be used. -/
  | unloaded (path : String) (cause : Failure)
  /-- The reports could not be printed to their end. -/
  | broken (cause : Printing.Broken)
  deriving DecidableEq, Repr

/-- The message of a failure, with that of what it came from. -/
def chainText : Failure → String
  | .bind port reason => (Failure.bind port reason).message ++ ": " ++ reason
  | .system reason => (Failure.system reason).message ++ ": " ++ reason
  | f => f.message

def Printing.Broken.text (b : Printing.Broken) : String :=
  match b.place with
  | .report => "JSON error: " ++ b.reason ++ ": " ++ b.reason
  | .line => chainText (.system b.reason)

def Mishap.text : Mishap → String
  | failed cause => chainText cause
  | unloaded path cause => "Failed to load run file " ++ path ++ ": " ++ chainText cause
  | broken cause => cause.text

/-- What has been printed in spite of a mishap. -/
def Mishap.shown : Mishap → String
  | failed _ => ""
  | unloaded _ _ => ""
  | broken cause => cause.shown

/-- What the program prints, and how it exits. -/
structure Output where
  status : Nat
  printed : String
  complaint : Option String
  deriving DecidableEq, Repr, Inhabited

namespace Execution

/-- What a command needs to know of the world outside. -/
structure World (σ : Type) where
  /-- The run file that was read, with its path. -/
  runFile : Option (String × Attempt String)
  around : Run.Surroundings σ
  /-- Where the reports are printed. -/
  device : Printing.Device

variable {σ : Type}

def settings (w : World σ) (i : Invocation) : Except Mishap Settings :=
  match w.runFile with
  | none => .ok (Settings.overlaidWith .standard i.overlay)
  | some (path, text) =>
      match text.bind Settings.ofYaml with
      | .ok s => .ok (s.overlaidWith i.overlay)
      | .error f => .error (.unloaded path f)

def prepared (w : World σ) (i : Invocation) : Except Mishap Run := do
  (Run.prepare (← settings w i) Standard.registry).mapError .failed

def list (i : Invocation) (l : Listing) : String := l.render i.format ++ "\n"

def plan (w : World σ) (i : Invocation) : Except Mishap String := do
  return list i (.ofEntries (← prepared w i).plan.entries)

/-- Lists the viewports that were asked for, or the catalog they are taken from. -/
def viewports (w : World σ) (i : Invocation) : Except Mishap String := do
  let s ← settings w i
  let known {α : Type} (x : Except TokenError α) : Except Mishap α :=
    x.mapError fun e => .failed (.viewport e)
  if i.resolve then return list i (.ofViewports (← known s.resolveViewports))
  let catalog ← known s.catalog
  return list i (if i.groups then .ofGroups catalog.groups else .ofViewports catalog.presets)

def specs (i : Invocation) : String :=
  list i (.ofSpecs (Standard.all.map fun (name, description, _) => (name, description)))

/-- Carries out a run.  Nothing is printed before all reports are there.  The directory in which the
program was started is taken to be there still: if it had been removed in the meantime, the run
would end after it was prepared, with nothing printed and with the status of a mishap. -/
def run (w : World σ) (i : Invocation) (s : σ) : Except Mishap (String × Bool) × σ :=
  match prepared w i with
  | .error m => (.error m, s)
  | .ok run =>
      match run.perform w.around s with
      | (.error f, _, s) => (.error (.failed f), s)
      | (.ok outcome, _, s) =>
          ((Printing.reports w.device run.settings.pretty outcome.reports).mapError .broken, s)

/-- Carries out a command: what is printed, and whether anything was found. -/
def carryOut (w : World σ) (i : Invocation) (s : σ) : Except Mishap (String × Bool) × σ :=
  let listing (x : Except Mishap String) : Except Mishap (String × Bool) × σ :=
    (x.map fun text => (text, false), s)
  match i.command with
  | .run => run w i s
  | .plan => listing (plan w i)
  | .viewports => listing (viewports w i)
  | .specs => listing (.ok (specs i))

def output (result : Except Mishap (String × Bool)) : Output :=
  match result with
  | .ok (text, found) => ⟨exitStatus (some found), text, none⟩
  | .error m => ⟨exitStatus none, m.shown, some m.text⟩

def command (w : World σ) (i : Invocation) (s : σ) : Output × σ :=
  let (result, s) := carryOut w i s
  (output result, s)

def version : String := "0.1.0"

/-- What comes of a command line that names nothing to carry out. -/
def stopped : Words.Stop → Output
  | .misused => ⟨2, "", none⟩
  | .unsaid => ⟨2, "", none⟩
  | .helpAsked => ⟨0, "", none⟩
  | .versionAsked name => ⟨0, name ++ " " ++ version ++ "\n", none⟩

end Execution
end CommandLine
end LayoutAudit
