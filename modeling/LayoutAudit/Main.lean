import LayoutAudit.CommandLine.Execution

/-!
# Main — the program

Reads the command line, the environment and the run file, carries out the command and prints what
comes of it.  The program starts no other programs, so a run ends where it needs a browser.
-/

namespace LayoutAudit

open CommandLine

/-- No browser is installed. -/
def nobody : Session.Peer Unit where
  start? := fun _ => none
  respond := fun _ _ s => (⟨[], true⟩, s)
  leave := id

def isThere (path : String) : IO Bool := do
  match ← (IO.FS.readFile path).toBaseIO with
  | .error (.noFileOrDirectory _ _ _) => return false
  | _ => return true

/-- Is there something at a path that is no file? -/
def isDirectory (path : String) : IO Bool := do
  match ← (IO.FS.readFile path).toBaseIO with
  | .error (.noFileOrDirectory _ _ _) => return false
  | .error _ => return true
  | .ok _ => return false

def readRunFile (path : String) : IO (String × Attempt String) := do
  match ← (IO.FS.readFile path).toBaseIO with
  | .ok text => return (path, .ok text)
  | .error e => return (path, .error (.system (toString e)))

def report (o : Output) : IO UInt32 := do
  IO.print o.printed
  match o.complaint with
  | some text => IO.eprintln ("Error: " ++ text)
  | none => pure ()
  return o.status.toUInt32

def carryOut (invocation : Invocation) : IO UInt32 := do
  let standard ← isThere Invocation.standardRunFile
  let runFile ← (invocation.runFile? fun _ => standard).mapM readRunFile
  let blind : Execution.World (Option (Session Unit)) :=
    ⟨runFile, idle fun _ => false, fun _ => none⟩
  let served := match Execution.settings blind invocation with
    | .ok s => s.serveDir
    | .error _ => none
  let found ← (served.mapM isDirectory)
  let around := idle fun path => served == some path && found == some true
  report (Execution.command ⟨runFile, around, fun _ => none⟩ invocation none).1
where
  idle (isDirectory : String → Bool) : Run.Surroundings (Option (Session Unit)) :=
    Run.surroundings nobody isDirectory (fun _ => .free) 1

end LayoutAudit

open LayoutAudit CommandLine in
def main (words : List String) : IO UInt32 := do
  let config ← IO.getEnv Invocation.configVariable
  let site ← IO.getEnv Invocation.baseUrlVariable
  let environment (name : String) : Option String :=
    if name = Invocation.configVariable then config
    else if name = Invocation.baseUrlVariable then site
    else none
  match Invocation.ofWords environment words with
  | .ok invocation => carryOut invocation
  | .error stop => do
      if stop == .misused then IO.eprintln "error: these arguments make no sense"
      report (Execution.stopped stop)
