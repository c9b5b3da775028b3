import LayoutAudit.Registry
import LayoutAudit.Viewport.Catalog

/-!
# Plan.Entry — what a run has to do

* `Plan.Entry`, `Plan` — scenarios on viewports, one scenario after the other;
* `Plan.build` — all selected scenarios on all viewports;
* `Plan.workers` — how many entries are worked on at a time;
* `EntryState` — the stages of an entry.
-/

namespace LayoutAudit

open Json (Value)
open Wire (Node Reading Record)

inductive EntryState where
  | queued
  | running
  | succeeded
  | failed
  deriving DecidableEq, Repr, Inhabited

namespace EntryState

def name : EntryState → String
  | queued => "queued"
  | running => "running"
  | succeeded => "succeeded"
  | failed => "failed"

def all : List EntryState := [queued, running, succeeded, failed]

end EntryState

/-- One scenario on one viewport. -/
structure Plan.Entry where
  index : Nat
  scenario : String
  viewport : Viewport
  deriving DecidableEq, Repr, Inhabited

def Plan.Entry.encode (e : Plan.Entry) : Value :=
  .object [("index", .nat e.index), ("scenario", .string e.scenario),
    ("viewport", e.viewport.encode)]

def Plan.Entry.fields : Record Plan.Entry :=
  ((Record.required "index" (Node.asNatural UInt64.size)).and <|
    (Record.required "scenario" Node.asText).and <|
    (Record.required "viewport" Viewport.decode)).map
  fun (index, scenario, viewport) => ⟨index, scenario, viewport⟩

def Plan.Entry.decode (n : Node) : Reading Plan.Entry := Plan.Entry.fields.decode n

/-- The entries of a run, numbered from zero. -/
structure Plan where
  entries : List Plan.Entry
  numbered : entries.map Plan.Entry.index = List.range entries.length
  deriving DecidableEq, Repr

namespace Plan

instance : Inhabited Plan := ⟨⟨[], rfl⟩⟩

theorem entries_nodup (p : Plan) : p.entries.Nodup := by
  have hindices : (p.entries.map Entry.index).Nodup := by
    simpa [p.numbered] using List.nodup_range
  exact List.Pairwise.of_map Entry.index (fun _ _ hne heq => hne (congrArg _ heq)) hindices

theorem index_of_getElem? (p : Plan) {k : Nat} {entry : Entry}
    (hentry : p.entries[k]? = some entry) : entry.index = k := by
  have hindex : (p.entries.map Entry.index)[k]? = some entry.index := by simp [hentry]
  rw [p.numbered, List.getElem?_range (List.getElem?_eq_some_iff.mp hentry).1] at hindex
  exact (Option.some.inj hindex).symm

def size (p : Plan) : Nat := p.entries.length

/-- The names of the selected scenarios, each once; an empty selection means all of them. -/
def selected (r : Registry) (selection : List String) : Attempt (List String) := do
  if selection.isEmpty then return r.scenarioNames
  let scenarios ← selection.mapM r.scenario
  return Distinct.firsts id (scenarios.map Scenario.name)

/-- All scenarios on all viewports, scenario by scenario. -/
def product (scenarios : List String) (viewports : List Viewport) : Plan :=
  let pairs := scenarios.flatMap fun s => viewports.map fun v => (s, v)
  ⟨pairs.zipIdx.map fun ((s, v), i) => ⟨i, s, v⟩, by
    simp [Function.comp_def, List.range_eq_range']⟩

def build (r : Registry) (selection : List String) (viewports : List Viewport) : Attempt Plan :=
  if r.scenarios.isEmpty then .error .noScenarios
  else if viewports.isEmpty then .error (.configuration .noViewports)
  else do return product (← selected r selection) viewports

/-- How many workers a plan of that size gets: those that were asked for, or one for each
processor, but at least one, and no more than there are entries. -/
def workers (asked : Option Nat) (processors size : Nat) : Nat :=
  max 1 (min (asked.getD processors) (max size 1))

end Plan
end LayoutAudit
