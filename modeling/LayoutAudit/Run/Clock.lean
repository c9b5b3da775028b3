import LayoutAudit.Run.Outcome

/-!
# Run.Clock — a run in the course of time

Time is counted in ticks and passes only while calls wait.  Of the workers whose wait is over, the
one with the least index goes on first, until it waits again.

* `Clock.Response`, `Clock.World` — whatever answers the calls, and how long that takes;
* `Clock.State`, `Clock.advance` — workers that go on when their answers have come;
* `Run.clocked` — the result of a run.
-/

namespace LayoutAudit
namespace Clock

structure Response where
  delay : Nat
  failure : Option Failure
  /-- What is measured, if that was asked for. -/
  measurement : Measurement
  deriving Inhabited

def Response.reaction (r : Response) : Reaction := fun call =>
  match r.failure, call with
  | some f, _ => .error f
  | none, .measure _ => Except.ok r.measurement
  | none, .openPage _ => Except.ok ()
  | none, .navigate _ => Except.ok ()
  | none, .close => Except.ok ()

/-- Whatever answers the calls.  It is told the time, which worker calls, and for which entry. -/
abbrev World (ω : Type) := (time worker : Nat) → Plan.Entry → Call → ω → Response × ω

inductive Alarm where
  | start
  /-- The answer comes at a time. -/
  | at (time : Nat) (response : Response)
  | never
  deriving Inhabited

def Alarm.time? : Alarm → Option Nat
  | start => some 0
  | .at time _ => some time
  | never => none

structure State (ω : Type) where
  crew : Crew
  clock : Nat
  alarms : List Alarm
  world : ω

variable {ω : Type}

/-- A worker calls and goes on until it has to wait. -/
def proceed (world : World ω) (journey : Plan.Entry → Journey) (i : Nat) :
    Nat → State ω → State ω
  | 0, s => s
  | fuel + 1, s =>
      match s.crew.workers[i]? with
      | some (.waiting entry call _) =>
          let (response, w) := world s.clock i entry call s.world
          let s := { s with world := w }
          if response.delay = 0 then
            proceed world journey i fuel
              { s with crew := s.crew.step journey (.answer i response.reaction) }
          else { s with alarms := s.alarms.set i (.at (s.clock + response.delay) response) }
      | _ => { s with alarms := s.alarms.set i .never }

/-- Of a time with its worker and an alarm, the one that comes first; the alarm has to come sooner. -/
def sooner (best : Option (Nat × Nat)) : Alarm × Nat → Option (Nat × Nat)
  | (alarm, i) =>
      match alarm.time?, best with
      | some time, some (least, j) => if time < least then some (time, i) else some (least, j)
      | some time, none => some (time, i)
      | none, best => best

/-- The worker that goes on next: the one whose time comes first, and of those the first. -/
def next? (alarms : List Alarm) : Option (Nat × Nat) := alarms.zipIdx.foldl sooner none

/-- Lets workers go on until all have stopped. -/
def advance (world : World ω) (journey : Plan.Entry → Journey) (calls : Nat) :
    Nat → State ω → State ω
  | 0, s => s
  | fuel + 1, s =>
      match next? s.alarms with
      | none => s
      | some (time, i) =>
          let event : Crew.Event := match s.alarms[i]? with
            | some (.at _ response) => .answer i response.reaction
            | _ => .start i
          let s := { s with clock := time, crew := s.crew.step journey event }
          advance world journey calls fuel (proceed world journey i calls s)

end Clock

namespace Run

/-- No run makes more calls than this: for each entry one for each step, and two for its page. -/
def callBound (run : Run) : Nat :=
  run.plan.entries.foldl (fun calls entry =>
    match run.registry.scenario entry.scenario with
    | .ok scenario => calls + scenario.steps.length + 2
    | .error _ => calls) 0

/-- The result of a run with the calls answered by a world. -/
def clocked {ω : Type} (run : Run) (world : Clock.World ω) (processors : Nat) (start : ω) :
    Attempt Outcome × ω :=
  let workers := run.workers processors
  let calls := run.callBound + 1
  let s := Clock.advance world run.journey calls (calls + workers)
    ⟨run.crew processors, 0, List.replicate workers .start, start⟩
  (s.crew.result.map Outcome.mk, s.world)

end Run
end LayoutAudit
