import LayoutAudit.CommandLine.Flag

/-!
# CommandLine.Words — reading what was said

Flags that belong to the program stand in front of the command, and all of a command's flags behind
it.  A flag that takes a value has it in the next word, or behind an equals sign, or, with a short
name, right behind the name.

* `Words.Stop` — why nothing is carried out;
* `Words.Said` — the flags that were found, with their values;
* `Words.read` — the words in front of a command, or behind it.
-/

namespace LayoutAudit
namespace CommandLine
namespace Words

inductive Stop where
  /-- What was said makes no sense. -/
  | misused
  /-- Nothing was said. -/
  | unsaid
  | helpAsked
  /-- The version was asked for, of a program or of one of its commands. -/
  | versionAsked (name : String)
  deriving DecidableEq, Repr

/-- The flags that were found, with their values; the latest first. -/
abbrev Said := List (Flag × String)

/-- What is read: the flags that may come, and whether a command may. -/
structure Place where
  name : String
  flags : List Flag
  awaitsCommand : Bool

def programName : String := "layoutcheck"

def outer : Place := ⟨programName, Flag.shared, true⟩

def inner (c : Command) : Place := ⟨programName ++ "-" ++ c.name, c.flags, false⟩

def note (place : Place) (flag : Flag) (value : String) (said : Said) : Except Stop Said :=
  if flag = .help then .error .helpAsked
  else if flag = .version then .error (.versionAsked place.name)
  else if flag.use ≠ .repeated ∧ said.any (·.1 == flag) then .error .misused
  else if flag.accepts value then .ok ((flag, value) :: said)
  else .error .misused

/-- Reads short names out of one word; the last of them may wait for its value. -/
def readShort (place : Place) : List Char → Said → Except Stop (Said × Option Flag)
  | [], said => .ok (said, none)
  | c :: rest, said =>
      match place.flags.find? (·.short == some c) with
      | none => .error .misused
      | some flag =>
          if flag.takesValue then
            match rest with
            | [] => .ok (said, some flag)
            | '=' :: value => do return (← note place flag (String.ofList value) said, none)
            | value => do return (← note place flag (String.ofList value) said, none)
          else
            match note place flag "" said with
            | .ok said => readShort place rest said
            | .error stop => .error stop

/-- A long name, and the value behind its equals sign. -/
def splitLong (cs : List Char) : String × Option String :=
  let name := String.ofList (cs.takeWhile (· != '='))
  match cs.dropWhile (· != '=') with
  | _ :: value => (name, some (String.ofList value))
  | [] => (name, none)

/-- Reads a long name; it may wait for its value. -/
def readLong (place : Place) (cs : List Char) (said : Said) : Except Stop (Said × Option Flag) :=
  let (name, value) := splitLong cs
  match place.flags.find? (·.long == name) with
  | none => .error .misused
  | some flag =>
      match value with
      | some value =>
          if flag.takesValue then do return (← note place flag value said, none)
          else .error .misused
      | none =>
          if flag.takesValue then .ok (said, some flag)
          else do return (← note place flag "" said, none)

/-- What comes of asking for help, perhaps on a command. -/
def help : List String → Stop
  | [] => .helpAsked
  | [name] => if name = "help" ∨ (Command.ofName? name).isSome then .helpAsked else .misused
  | _ => .misused

/-- A word that begins with no dash: the command that was waited for.  All that follows a wish for
help says what it is about. -/
def readWord (place : Place) (word : String) (rest : List String) : Except Stop Command :=
  if !place.awaitsCommand then .error .misused
  else if word = "help" then .error (help rest)
  else
    match Command.ofName? word with
    | some command => .ok command
    | none => .error .misused

/-- Reads words up to a command or to the end, perhaps first the value of a flag. -/
def read (place : Place) : Option Flag → Said → List String →
    Except Stop (Said × Option (Command × List String))
  | none, said, [] => .ok (said, none)
  | some _, _, [] => .error .misused
  | waiting, said, word :: rest =>
      match waiting, word.toList with
      | some _, '-' :: _ :: _ => .error .misused
      | some flag, _ =>
          match note place flag word said with
          | .ok said => read place none said rest
          | .error stop => .error stop
      | none, ['-', '-'] => if rest.isEmpty then .ok (said, none) else .error .misused
      | none, '-' :: '-' :: name =>
          match readLong place name said with
          | .ok (said, waiting) => read place waiting said rest
          | .error stop => .error stop
      | none, '-' :: c :: more =>
          match readShort place (c :: more) said with
          | .ok (said, waiting) => read place waiting said rest
          | .error stop => .error stop
      | none, _ =>
          match readWord place word rest with
          | .ok command => .ok (said, some (command, rest))
          | .error stop => .error stop

end Words
end CommandLine
end LayoutAudit
