import LayoutAudit.Proofs.Run.Note

/-!
# Proofs.Run.Move — what a worker does until it waits again

A worker that begins, or that gets an answer, goes on until it waits for its next call or stops.
Everything that a crew keeps to is said here, once, about such a move.

* `Worker.claimNotes`, `Worker.goOnNotes` — the story of a move;
* `Worker.Move` — what a move may do to the ledger and to the worker;
* `Worker.move_claim`, `Worker.move_goOn` — workers do nothing else.
-/

namespace LayoutAudit
namespace Worker

def held? : Worker → Option Plan.Entry
  | waiting entry _ _ => some entry
  | _ => none

@[simp] theorem held?_idle : held? .idle = none := rfl
@[simp] theorem held?_waiting (entry : Plan.Entry) (call : Call)
    (next : Attempt call.Reply → Journey) : (waiting entry call next).held? = some entry := rfl
@[simp] theorem held?_stopped : held? .stopped = none := rfl

def call? : Worker → Option (Plan.Entry × Call)
  | waiting entry call _ => some (entry, call)
  | _ => none

/-- The story of `claimFrom`. -/
def claimNotes (journey : Plan.Entry → Journey) : List Plan.Entry → Ledger → List Note
  | [], _ => []
  | entry :: rest, l =>
      if l.failure.isSome then []
      else match journey entry with
        | .await call _ => [.claimed entry, .called entry call]
        | .finished result =>
            .claimed entry :: .recorded entry result ::
              claimNotes journey rest (l.record entry result)

/-- The story of `goOn`. -/
def goOnNotes (journey : Plan.Entry → Journey) (entry : Plan.Entry) (j : Journey) (l : Ledger) :
    List Note :=
  match j with
  | .await call _ => [.called entry call]
  | .finished result =>
      .recorded entry result :: claimNotes journey l.queue (l.record entry result)

/-- A move of a worker that is in the middle of `held`, with its story. -/
structure Move (held : Option Plan.Entry) (l : Ledger) (notes : List Note)
    (after : Worker × Ledger) : Prop where
  ledger : after.2 = l.replay notes
  /-- Claims are taken off the front of the queue. -/
  queue : Note.claims notes ++ after.2.queue = l.queue
  /-- What was in hand or is claimed gets finished, in order, but for what is in hand at the end. -/
  held : held.toList ++ Note.claims notes = Note.finished notes ++ after.1.held?.toList
  /-- The only call that begins is the one that the worker waits for. -/
  calls : Note.calls notes = after.1.call?.toList
  begun : after.1 ≠ idle
  stopped : after.1 = .stopped → after.2.queue = [] ∨ after.2.failure.isSome = true
  /-- Nothing is claimed after a failure. -/
  quiet : l.failure.isSome = true → Note.claims notes = []
  /-- A failure is the last thing that a worker records. -/
  last : ∀ {earlier later : List Note} {entry : Plan.Entry} {f : Failure},
    notes = earlier ++ .recorded entry (.error f) :: later → later = [] ∧ after.1 = .stopped

/-! ## Claiming -/

section

variable {journey : Plan.Entry → Journey}

theorem claimNotes_of_failed (queue : List Plan.Entry) {l : Ledger}
    (hfailed : l.failure.isSome = true) : claimNotes journey queue l = [] := by
  cases queue <;> simp [claimNotes, hfailed]

theorem claimFrom_of_failed (queue : List Plan.Entry) {l : Ledger}
    (hfailed : l.failure.isSome = true) :
    claimFrom journey queue l = (.stopped, { l with queue := queue }) := by
  cases queue <;> simp [claimFrom, hfailed]

theorem record_withQueue (l : Ledger) (queue : List Plan.Entry) (entry : Plan.Entry)
    (result : Attempt (List Report)) :
    Ledger.record { l with queue := queue } entry result =
      { l.record entry result with queue := queue } := by
  cases result <;> rfl

theorem isSome_failure_record {l : Ledger} (hfailed : l.failure.isSome = true)
    (entry : Plan.Entry) (result : Attempt (List Report)) :
    (l.record entry result).failure.isSome = true := by
  cases result <;> simp [Ledger.record, hfailed]

/-- A worker that stops leaves the queue as it is. -/
theorem Move.stop {l : Ledger} (hdone : l.queue = [] ∨ l.failure.isSome = true) :
    Move none l [] (.stopped, l) where
  ledger := rfl
  queue := by simp
  held := by simp
  calls := by simp [call?]
  begun := by simp
  stopped := fun _ => hdone
  quiet := fun _ => rfl
  last := by simp

/-- A worker that is free claims an entry and makes its first call. -/
theorem Move.take {l : Ledger} (hfailed : ¬l.failure.isSome = true) (entry : Plan.Entry)
    (rest : List Plan.Entry) (call : Call) (next : Attempt call.Reply → Journey) :
    Move none { l with queue := entry :: rest } [.claimed entry, .called entry call]
      (.waiting entry call next, { l with queue := rest }) where
  ledger := by simp [Ledger.enter]
  queue := by simp
  held := by simp
  calls := by simp [call?]
  begun := by simp
  stopped := by simp
  quiet := fun hsome => absurd hsome hfailed
  last := by
    intro earlier later e f hnotes
    rcases earlier with _ | ⟨_, _ | ⟨_, _ | _⟩⟩ <;> simp at hnotes

/-- A result is recorded before the move goes on with `notes`. -/
theorem Move.record {entry : Plan.Entry} {l : Ledger} {result : Attempt (List Report)}
    {notes : List Note} {after : Worker × Ledger}
    (hmove : Move none (l.record entry result) notes after)
    (hfailed : (l.record entry result).failure.isSome = true →
      notes = [] ∧ after.1 = .stopped) :
    Move (some entry) l (.recorded entry result :: notes) after where
  ledger := by simpa [Ledger.enter] using hmove.ledger
  queue := by simpa using hmove.queue
  held := by simpa using hmove.held
  calls := by simpa using hmove.calls
  begun := hmove.begun
  stopped := hmove.stopped
  quiet := fun hsome => hmove.quiet (isSome_failure_record hsome entry result)
  last := by
    intro earlier later e f hnotes
    -- Either the failure is the one recorded here, or it is one of the notes that follow.
    rcases earlier with _ | ⟨note, earlier⟩
    case nil =>
      have hresult : result = .error f := by simp_all
      have hnone := hfailed (by simp [hresult, Ledger.record])
      simp_all
    case cons =>
      have hrest : notes = earlier ++ .recorded e (.error f) :: later := by simp_all
      exact hmove.last hrest

/-- An entry is claimed before the move goes on with it. -/
theorem Move.claimFirst {entry : Plan.Entry} {rest : List Plan.Entry} {l : Ledger}
    {notes : List Note} {after : Worker × Ledger} (hfailed : ¬l.failure.isSome = true)
    (hmove : Move (some entry) { l with queue := rest } notes after) :
    Move none { l with queue := entry :: rest } (.claimed entry :: notes) after where
  ledger := by simpa [Ledger.enter] using hmove.ledger
  queue := by simpa using hmove.queue
  held := by simpa using hmove.held
  calls := by simpa using hmove.calls
  begun := hmove.begun
  stopped := hmove.stopped
  quiet := fun hsome => absurd hsome hfailed
  last := by
    intro earlier later e f hnotes
    rcases earlier with _ | ⟨note, earlier⟩
    case nil => simp at hnotes
    case cons =>
      have hrest : notes = earlier ++ .recorded e (.error f) :: later := by simp_all
      exact hmove.last hrest

theorem move_claimFrom (queue : List Plan.Entry) (l : Ledger) :
    Move none { l with queue := queue } (claimNotes journey queue l)
      (claimFrom journey queue l) := by
  induction queue generalizing l with
  | nil => exact Move.stop (.inl rfl)
  | cons entry rest ih =>
      by_cases hfailed : l.failure.isSome = true
      · rw [claimNotes_of_failed _ hfailed, claimFrom_of_failed _ hfailed]
        exact Move.stop (.inr hfailed)
      · cases hjourney : journey entry with
        | await call next =>
            simpa [claimNotes, claimFrom, hfailed, hjourney] using
              Move.take hfailed entry rest call next
        | finished result =>
            -- A journey without calls is over at once, and the worker claims the next entry.
            have hrest := ih (l.record entry result)
            rw [← record_withQueue] at hrest
            have hmove := Move.claimFirst hfailed (Move.record hrest fun hrecorded => by
              have hstop : (l.record entry result).failure.isSome = true := by
                simpa [record_withQueue] using hrecorded
              exact ⟨claimNotes_of_failed _ hstop, by rw [claimFrom_of_failed _ hstop]⟩)
            simpa [claimNotes, claimFrom, hfailed, hjourney] using hmove

/-- A worker that begins. -/
theorem move_claim (l : Ledger) :
    Move none l (claimNotes journey l.queue l) (claim journey l) :=
  move_claimFrom l.queue l

/-- A worker that has claimed an entry is at the start of its journey. -/
theorem journey_of_claimFrom {queue : List Plan.Entry} {l : Ledger} {entry : Plan.Entry}
    {call : Call} {next : Attempt call.Reply → Journey}
    (hwaiting : (claimFrom journey queue l).1 = .waiting entry call next) :
    journey entry = .await call next := by
  induction queue generalizing l with
  | nil => simp [claimFrom] at hwaiting
  | cons first rest ih =>
      by_cases hfailed : l.failure.isSome = true
      · simp [claimFrom, hfailed] at hwaiting
      · cases hjourney : journey first with
        | await call' next' =>
            simp only [claimFrom, hfailed, hjourney] at hwaiting
            cases hwaiting
            exact hjourney
        | finished result =>
            simp only [claimFrom, hfailed, hjourney] at hwaiting
            exact ih hwaiting

/-- Results that are recorded while claiming are those of journeys without calls. -/
theorem journey_of_claimNotes {queue : List Plan.Entry} {l : Ledger} {entry : Plan.Entry}
    {result : Attempt (List Report)}
    (hnote : .recorded entry result ∈ claimNotes journey queue l) :
    journey entry = .finished result := by
  induction queue generalizing l with
  | nil => simp [claimNotes] at hnote
  | cons first rest ih =>
      by_cases hfailed : l.failure.isSome = true
      · simp [claimNotes, hfailed] at hnote
      · cases hjourney : journey first with
        | await call next => simp [claimNotes, hfailed, hjourney] at hnote
        | finished result' =>
            simp [claimNotes, hfailed, hjourney] at hnote
            rcases hnote with ⟨rfl, rfl⟩ | hrest
            · exact hjourney
            · exact ih hrest

/-! ## Going on -/

/-- A worker that got an answer. -/
theorem move_goOn (entry : Plan.Entry) (j : Journey) (l : Ledger) :
    Move (some entry) l (goOnNotes journey entry j l) (goOn journey entry j l) := by
  cases j with
  | await call next =>
      exact {
        ledger := by simp [goOn, goOnNotes, Ledger.enter]
        queue := by simp [goOn, goOnNotes]
        held := by simp [goOn, goOnNotes]
        calls := by simp [goOn, goOnNotes, call?]
        begun := by simp [goOn]
        stopped := by simp [goOn]
        quiet := fun _ => rfl
        last := by
          intro earlier later e f hnotes
          rcases earlier with _ | ⟨_, _ | _⟩ <;> simp [goOnNotes] at hnotes }
  | finished result =>
      have hrest : Move none (l.record entry result)
          (claimNotes journey l.queue (l.record entry result))
          (claim journey (l.record entry result)) := by
        simpa using move_claim (l.record entry result)
      refine Move.record hrest fun hrecorded => ⟨claimNotes_of_failed _ hrecorded, ?_⟩
      simp [goOn, claim, claimFrom_of_failed _ hrecorded]

end

end Worker
end LayoutAudit
