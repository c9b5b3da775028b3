import LayoutAudit.Run.Crew

/-!
# Proofs.Run.Note — what happens in the course of a run

A run is told as a list of notes.  A note says that an entry was claimed, that a call began, or
that the result of an entry was recorded.

* `Note.claims`, `Note.finished`, `Note.inFlight` — the entries that a story is about;
* `Note.calls`, `Note.opens`, `Note.failures` — the calls and the failures, in order;
* `Ledger.replay` — a ledger is brought up to date by a story.
-/

namespace LayoutAudit

def Call.opensPage : Call → Bool
  | openPage _ => true
  | _ => false

inductive Note where
  | claimed (entry : Plan.Entry)
  /-- A call begins. -/
  | called (entry : Plan.Entry) (call : Call)
  | recorded (entry : Plan.Entry) (result : Attempt (List Report))

namespace Note

def claim? : Note → Option Plan.Entry
  | claimed entry => some entry
  | _ => none

def call? : Note → Option (Plan.Entry × Call)
  | called entry call => some (entry, call)
  | _ => none

def finish? : Note → Option Plan.Entry
  | recorded entry _ => some entry
  | _ => none

def failure? : Note → Option Failure
  | recorded _ (.error f) => some f
  | _ => none

def claims (notes : List Note) : List Plan.Entry := notes.filterMap claim?

def calls (notes : List Note) : List (Plan.Entry × Call) := notes.filterMap call?

/-- The entries for which a page began to be opened, in order. -/
def opens (notes : List Note) : List Plan.Entry :=
  ((calls notes).filter fun (_, call) => call.opensPage).map Prod.fst

def finished (notes : List Note) : List Plan.Entry := notes.filterMap finish?

def failures (notes : List Note) : List Failure := notes.filterMap failure?

/-- The entries that were claimed and not yet finished. -/
def inFlight (notes : List Note) : List Plan.Entry :=
  (claims notes).filter fun entry => !(finished notes).contains entry

section

variable (notes more : List Note) (entry : Plan.Entry) (call : Call)
  (result : Attempt (List Report))

@[simp] theorem claims_nil : claims [] = [] := rfl
@[simp] theorem calls_nil : calls [] = [] := rfl
@[simp] theorem opens_nil : opens [] = [] := rfl
@[simp] theorem finished_nil : finished [] = [] := rfl
@[simp] theorem failures_nil : failures [] = [] := rfl

@[simp] theorem claims_append : claims (notes ++ more) = claims notes ++ claims more :=
  List.filterMap_append

@[simp] theorem calls_append : calls (notes ++ more) = calls notes ++ calls more :=
  List.filterMap_append

@[simp] theorem opens_append : opens (notes ++ more) = opens notes ++ opens more := by
  simp [opens]

@[simp] theorem finished_append : finished (notes ++ more) = finished notes ++ finished more :=
  List.filterMap_append

@[simp] theorem failures_append : failures (notes ++ more) = failures notes ++ failures more :=
  List.filterMap_append

@[simp] theorem claims_claimed : claims (claimed entry :: notes) = entry :: claims notes := rfl
@[simp] theorem claims_called : claims (called entry call :: notes) = claims notes := rfl
@[simp] theorem claims_recorded : claims (recorded entry result :: notes) = claims notes := rfl

@[simp] theorem calls_claimed : calls (claimed entry :: notes) = calls notes := rfl
@[simp] theorem calls_called : calls (called entry call :: notes) = (entry, call) :: calls notes :=
  rfl
@[simp] theorem calls_recorded : calls (recorded entry result :: notes) = calls notes := rfl

@[simp] theorem finished_claimed : finished (claimed entry :: notes) = finished notes := rfl
@[simp] theorem finished_called : finished (called entry call :: notes) = finished notes := rfl
@[simp] theorem finished_recorded :
    finished (recorded entry result :: notes) = entry :: finished notes := rfl

@[simp] theorem failures_claimed : failures (claimed entry :: notes) = failures notes := rfl
@[simp] theorem failures_called : failures (called entry call :: notes) = failures notes := rfl
@[simp] theorem failures_ok (reports : List Report) :
    failures (recorded entry (.ok reports) :: notes) = failures notes := rfl
@[simp] theorem failures_error (f : Failure) :
    failures (recorded entry (.error f) :: notes) = f :: failures notes := rfl

end

theorem mem_finished_iff {notes : List Note} {entry : Plan.Entry} :
    entry ∈ finished notes ↔ ∃ result, recorded entry result ∈ notes := by
  constructor
  · intro hentry
    rcases List.mem_filterMap.mp hentry with ⟨note, hnote, hfinish⟩
    cases note with
    | claimed other => simp [finish?] at hfinish
    | called other call => simp [finish?] at hfinish
    | recorded other result =>
        have hsame : other = entry := by simpa [finish?] using hfinish
        exact ⟨result, hsame ▸ hnote⟩
  · rintro ⟨result, hnote⟩
    exact List.mem_filterMap.mpr ⟨_, hnote, rfl⟩

theorem mem_failures_iff {notes : List Note} {f : Failure} :
    f ∈ failures notes ↔ ∃ entry, recorded entry (.error f) ∈ notes := by
  constructor
  · intro hfailure
    rcases List.mem_filterMap.mp hfailure with ⟨note, hnote, hfail⟩
    rcases note with _ | _ | ⟨entry, g | reports⟩ <;> simp [failure?] at hfail
    exact ⟨entry, hfail ▸ hnote⟩
  · rintro ⟨entry, hnote⟩
    exact List.mem_filterMap.mpr ⟨_, hnote, rfl⟩

end Note

/-! ## A ledger is brought up to date -/

namespace Ledger

def enter (l : Ledger) : Note → Ledger
  | .claimed _ => { l with queue := l.queue.tail }
  | .called _ _ => l
  | .recorded entry result => l.record entry result

@[simp] theorem enter_called (l : Ledger) (entry : Plan.Entry) (call : Call) :
    l.enter (.called entry call) = l := rfl
@[simp] theorem enter_recorded (l : Ledger) (entry : Plan.Entry) (result : Attempt (List Report)) :
    l.enter (.recorded entry result) = l.record entry result := rfl

def replay (l : Ledger) (notes : List Note) : Ledger := notes.foldl enter l

@[simp] theorem replay_nil (l : Ledger) : l.replay [] = l := rfl

@[simp] theorem replay_cons (l : Ledger) (note : Note) (notes : List Note) :
    l.replay (note :: notes) = (l.enter note).replay notes := rfl

@[simp] theorem replay_append (l : Ledger) (notes more : List Note) :
    l.replay (notes ++ more) = (l.replay notes).replay more := by
  simp [replay]

@[simp] theorem queue_record (l : Ledger) (entry : Plan.Entry) (result : Attempt (List Report)) :
    (l.record entry result).queue = l.queue := by
  cases result <;> rfl

theorem failure_enter (l : Ledger) (note : Note) :
    (l.enter note).failure = l.failure.or note.failure? := by
  cases note with
  | claimed entry => simp [enter, Note.failure?]
  | called entry call => simp [enter, Note.failure?]
  | recorded entry result => cases result <;> simp [enter, record, Note.failure?]

/-- The failure of a ledger is the first that was recorded. -/
theorem failure_replay (l : Ledger) (notes : List Note) :
    (l.replay notes).failure = l.failure.or (Note.failures notes).head? := by
  induction notes generalizing l with
  | nil => simp
  | cons note notes ih =>
      rw [replay_cons, ih, failure_enter, Option.or_assoc]
      cases hfailure : note.failure? with
      | none => simp [Note.failures, hfailure]
      | some f => simp [Note.failures, hfailure]

end Ledger
end LayoutAudit
