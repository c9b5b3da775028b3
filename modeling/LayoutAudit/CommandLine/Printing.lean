import LayoutAudit.Report

/-!
# CommandLine.Printing — reports as they are printed

A report is printed when the one before it has been, so that an output that refuses a text has
already got what comes before it.

* `Printing.Effort`, `Printing.Refusal`, `Printing.Device` — an output, given by what it refuses;
* `Printing.Broken` — printing that was broken off, with what had come out by then;
* `Printing.report`, `Printing.reports` — prints a report, or all of them one after the other.
-/

namespace LayoutAudit
namespace CommandLine
namespace Printing

/-- Something that an output can refuse. -/
inductive Effort where
  /-- A text is written behind what was written before. -/
  | write (before text : String)
  /-- All that was written has to come out. -/
  | flush (before : String)
  deriving DecidableEq, Repr

structure Refusal where
  /-- The number of characters that have come out in all. -/
  length : Nat
  reason : String
  deriving DecidableEq, Repr

/-- An output, given by what it refuses. -/
abbrev Device := Effort → Option Refusal

inductive Place where
  /-- Within the text of a report. -/
  | report
  /-- Behind a report, or when all of them have been written. -/
  | line
  deriving DecidableEq, Repr

structure Broken where
  shown : String
  place : Place
  reason : String
  deriving DecidableEq, Repr

/-- What a refusal leaves of the text that was written. -/
def Refusal.broken (refusal : Refusal) (place : Place) (written : String) : Broken :=
  ⟨String.ofList (written.toList.take refusal.length), place, refusal.reason⟩

def put (device : Device) (place : Place) (before text : String) : Except Broken String :=
  match device (.write before text) with
  | none => .ok (before ++ text)
  | some refusal => .error (refusal.broken place (before ++ text))

def report (device : Device) (pretty : Bool) (before : String) (r : Report) :
    Except Broken String := do
  put device .line (← put device .report before (r.text pretty)) "\n"

/-- Prints reports behind what was written before, with what is known of those. -/
def proceed (device : Device) (pretty : Bool) :
    List Report → String → Bool → Except Broken (String × Bool)
  | [], before, found =>
      match device (.flush before) with
      | none => .ok (before, found)
      | some refusal => .error (refusal.broken .line before)
  | r :: rest, before, found => do
      proceed device pretty rest (← report device pretty before r) (found || !r.isClean)

/-- Prints reports in order.  Gives what was printed, and whether any of them found something. -/
def reports (device : Device) (pretty : Bool) (rs : List Report) :
    Except Broken (String × Bool) := proceed device pretty rs "" false

end Printing
end CommandLine
end LayoutAudit
