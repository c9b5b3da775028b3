import LayoutAudit.Run.Journey

/-!
# Run.Crew — workers on a plan

Each worker claims the first entry that is left, goes through its journey, and claims the next one.
Workers only take turns at calls.  Once an entry has failed nothing more is claimed, but what has
been claimed is brought to its end.

* `Ledger` — what is left, what has been finished, and the first failure;
* `Worker`, `Crew` — the workers, each of them waiting for an answer;
* `Crew.start`, `Crew.resume` — a worker begins, or gets an answer, and goes on to its next call;
* `Crew.Event`, `Crew.step`, `Crew.run` — everything that can happen, in whatever order;
* `Crew.result` — the items in the order of the plan, or the first failure.
-/

namespace LayoutAudit

structure Item where
  entry : Plan.Entry
  reports : List Report
  deriving Inhabited

/-- What the workers share. -/
structure Ledger where
  /-- The entries that nobody has claimed. -/
  queue : List Plan.Entry
  /-- The failure that was recorded first. -/
  failure : Option Failure
  /-- A slot for each entry of the plan. -/
  slots : List (Option Item)
  deriving Inhabited

namespace Ledger

/-- Nothing has been claimed. -/
def ofPlan (p : Plan) : Ledger := ⟨p.entries, none, p.entries.map fun _ => none⟩

def record (l : Ledger) (entry : Plan.Entry) : Attempt (List Report) → Ledger
  | .ok reports => { l with slots := l.slots.set entry.index (some ⟨entry, reports⟩) }
  | .error f => { l with failure := l.failure.or (some f) }

end Ledger

inductive Worker where
  /-- Has not begun. -/
  | idle
  /-- Waits for the answer to a call. -/
  | waiting (entry : Plan.Entry) (call : Call) (next : Attempt call.Reply → Journey)
  /-- Claims nothing any more. -/
  | stopped
  deriving Inhabited

namespace Worker

/-- Claims entries until there is a call to wait for. -/
def claimFrom (journey : Plan.Entry → Journey) : List Plan.Entry → Ledger → Worker × Ledger
  | [], l => (stopped, { l with queue := [] })
  | entry :: rest, l =>
      if l.failure.isSome then (stopped, { l with queue := entry :: rest })
      else match journey entry with
        | .await call next => (waiting entry call next, { l with queue := rest })
        | .finished result => claimFrom journey rest (l.record entry result)

/-- Claims the first entry that is left. -/
def claim (journey : Plan.Entry → Journey) (l : Ledger) : Worker × Ledger :=
  claimFrom journey l.queue l

def goOn (journey : Plan.Entry → Journey) (entry : Plan.Entry) (j : Journey) (l : Ledger) :
    Worker × Ledger :=
  match j with
  | .await call next => (waiting entry call next, l)
  | .finished result => claim journey (l.record entry result)

end Worker

structure Crew where
  ledger : Ledger
  workers : List Worker
  deriving Inhabited

namespace Crew

/-- Workers that have not begun. -/
def assemble (p : Plan) (workers : Nat) : Crew :=
  ⟨.ofPlan p, List.replicate workers .idle⟩

def update (c : Crew) (i : Nat) (step : Worker × Ledger) : Crew :=
  ⟨step.2, c.workers.set i step.1⟩

def start (journey : Plan.Entry → Journey) (c : Crew) (i : Nat) : Crew :=
  match c.workers[i]? with
  | some .idle => c.update i (Worker.claim journey c.ledger)
  | _ => c

def resume (journey : Plan.Entry → Journey) (c : Crew) (i : Nat) (reaction : Reaction) : Crew :=
  match c.workers[i]? with
  | some (.waiting entry call next) =>
      c.update i (Worker.goOn journey entry (next (reaction call)) c.ledger)
  | _ => c

inductive Event where
  /-- A worker begins. -/
  | start (worker : Nat)
  /-- A worker gets an answer. -/
  | answer (worker : Nat) (reaction : Reaction)

def step (journey : Plan.Entry → Journey) (c : Crew) : Event → Crew
  | .start i => c.start journey i
  | .answer i reaction => c.resume journey i reaction

def run (journey : Plan.Entry → Journey) (c : Crew) (events : List Event) : Crew :=
  events.foldl (step journey) c

def isDone (c : Crew) : Bool :=
  c.workers.all fun
    | .stopped => true
    | _ => false

/-- The first failure, or else the items in the order of the plan. -/
def result (c : Crew) : Attempt (List Item) :=
  match c.ledger.failure with
  | some f => .error f
  | none => .ok (c.ledger.slots.filterMap id)

end Crew
end LayoutAudit
