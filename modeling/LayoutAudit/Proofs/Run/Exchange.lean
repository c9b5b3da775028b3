import LayoutAudit.Proofs.Run.Chronicle

/-!
# Proofs.Run.Exchange — what was asked and answered for each entry

The calls of all workers and the answers to them come in any order.  Taken entry by entry, they are
a walk through the journey of the entry: every call that has begun has been answered, but for the
one that a worker waits for, and what is left of the journey is in the hands of that worker.

* `Journey.Past` — what is left of a journey after exchanges;
* `Crew.exchanges`, `Plan.Entry.part` — the exchanges of a run, and those of one entry;
* `Crew.Kept` — how exchanges, story and workers hang together;
* `Crew.kept_run` — they do so after every sequence of events.
-/

namespace LayoutAudit

def Exchange.failure? (x : Exchange) : Option Failure :=
  match x.answer with
  | .ok _ => none
  | .error f => some f

/-- What of a list is about an entry, in order. -/
def Plan.Entry.part {α : Type} (entry : Plan.Entry) (pairs : List (Plan.Entry × α)) : List α :=
  pairs.filterMap fun pair => if pair.1 = entry then some pair.2 else none

section

variable {α : Type} (entry : Plan.Entry) (pairs more : List (Plan.Entry × α)) (a : α)

@[simp] theorem Plan.Entry.part_nil : entry.part ([] : List (Plan.Entry × α)) = [] := rfl

@[simp] theorem Plan.Entry.part_append :
    entry.part (pairs ++ more) = entry.part pairs ++ entry.part more :=
  List.filterMap_append

@[simp] theorem Plan.Entry.part_self : entry.part [(entry, a)] = [a] := by simp [part]

theorem Plan.Entry.part_other {other : Plan.Entry} (hother : other ≠ entry) :
    entry.part [(other, a)] = [] := by
  simp [part, hother]

end

namespace Journey

def call? : Journey → Option Call
  | finished _ => none
  | await call _ => some call

/-- What is left of a journey after exchanges. -/
inductive Past (j : Journey) : List Exchange → Journey → Prop where
  | start : Past j [] j
  | further {xs : List Exchange} {call : Call} {next : Attempt call.Reply → Journey}
      (hpast : Past j xs (await call next)) (answer : Attempt call.Reply) :
      Past j (xs ++ [⟨call, answer⟩]) (next answer)

/-- How far a journey has come: the calls that have begun, the exchanges, and what is left.  All
calls have been answered but for the one that the rest begins with. -/
structure Reached (j : Journey) (begun : List Call) (xs : List Exchange) (left : Journey) :
    Prop where
  past : Past j xs left
  begun_eq : begun = xs.map (·.call) ++ left.call?.toList

end Journey

/-! ## What is claimed -/

namespace Worker

variable {journey : Plan.Entry → Journey} {queue : List Plan.Entry} {l : Ledger}
  {entry : Plan.Entry}

theorem claims_claimNotes (queue : List Plan.Entry) (l : Ledger) :
    Note.claims (claimNotes journey queue l) =
      Note.finished (claimNotes journey queue l) ++
        (claimFrom journey queue l).1.held?.toList := by
  have hmove : Move none { l with queue := queue } (claimNotes journey queue l)
      (claimFrom journey queue l) := move_claimFrom queue l
  simpa using hmove.held

theorem claimed_of_held (hheld : (claimFrom journey queue l).1.held? = some entry) :
    entry ∈ Note.claims (claimNotes journey queue l) := by
  rw [claims_claimNotes, hheld]
  simp

theorem claimed_of_waiting {call : Call} {next : Attempt call.Reply → Journey}
    (hwaiting : (claimFrom journey queue l).1 = .waiting entry call next) :
    entry ∈ Note.claims (claimNotes journey queue l) :=
  claimed_of_held (by rw [hwaiting, held?_waiting])

/-- What is recorded while claiming is not what the worker waits for afterwards. -/
theorem claimed_of_recorded {result : Attempt (List Report)}
    (honce : (Note.claims (claimNotes journey queue l)).Nodup)
    (hnote : .recorded entry result ∈ claimNotes journey queue l) :
    entry ∈ Note.claims (claimNotes journey queue l) ∧
      (claimFrom journey queue l).1.held? ≠ some entry := by
  have hfinished := Note.mem_finished_iff.mpr ⟨result, hnote⟩
  rw [claims_claimNotes] at honce ⊢
  refine ⟨List.mem_append_left _ hfinished, fun hheld => ?_⟩
  exact (List.nodup_append.mp honce).2.2 entry hfinished entry (by simp [hheld]) rfl

section

variable {held : Option Plan.Entry} {notes : List Note} {after : Worker × Ledger}

/-- The only call of a move is that of the entry which the worker is in the middle of afterwards. -/
theorem Move.part_calls_of_not_held (hmove : Move held l notes after)
    (hheld : after.1.held? ≠ some entry) : entry.part (Note.calls notes) = [] := by
  rw [hmove.calls]
  -- Only a worker that waits has made a call, and it holds the entry of that call.
  cases hafter : after.1 with
  | idle => rfl
  | waiting other call next =>
      have hother : other ≠ entry := by simpa [hafter] using hheld
      exact entry.part_other _ hother
  | stopped => rfl

theorem Move.part_calls_of_waiting (hmove : Move held l notes after) {call : Call}
    {next : Attempt call.Reply → Journey} (hafter : after.1 = .waiting entry call next) :
    entry.part (Note.calls notes) = [call] := by
  rw [hmove.calls, hafter]
  exact entry.part_self call

/-- What a worker is in the middle of afterwards it was in the middle of before, or has claimed. -/
theorem Move.held_or_claimed (hmove : Move held l notes after)
    (hheld : after.1.held? = some entry) : held = some entry ∨ entry ∈ Note.claims notes := by
  have hmem : entry ∈ held.toList ++ Note.claims notes := by
    rw [hmove.held, hheld]
    simp
  simpa using hmem

end

end Worker

namespace Crew

variable {journey : Plan.Entry → Journey} {p : Plan} {c : Crew}

def exchanges (journey : Plan.Entry → Journey) (c : Crew) :
    List Event → List (Plan.Entry × Exchange)
  | [] => []
  | event :: events => c.exchange event ++ (c.step journey event).exchanges journey events

/-! ## The invariant -/

/-- Each entry has come as far as the exchanges about it say: to where a worker waits, to its result,
or nowhere if nobody has claimed it. -/
structure Kept (journey : Plan.Entry → Journey) (story : List Note)
    (log : List (Plan.Entry × Exchange)) (c : Crew) : Prop where
  waiting {i : Nat} {entry : Plan.Entry} {call : Call} {next : Attempt call.Reply → Journey} :
    c.workers[i]? = some (.waiting entry call next) →
      (journey entry).Reached (entry.part (Note.calls story)) (entry.part log) (.await call next)
  recorded {entry : Plan.Entry} {result : Attempt (List Report)} :
    .recorded entry result ∈ story →
      (journey entry).Reached (entry.part (Note.calls story)) (entry.part log) (.finished result)
  unclaimed {entry : Plan.Entry} : entry ∉ Note.claims story →
    entry.part (Note.calls story) = [] ∧ entry.part log = []

theorem kept_assemble (journey : Plan.Entry → Journey) (p : Plan) (workers : Nat) :
    Kept journey [] [] (assemble p workers) where
  waiting := by
    intro i entry call next hworker
    have hidle := List.eq_of_mem_replicate (List.mem_of_getElem? hworker)
    cases hidle
  recorded := by simp
  unclaimed := by simp

/-- Two workers are never in the middle of the same entry. -/
theorem held_ne_of_ne (hnodup : c.inHand.Nodup) {i j : Nat} (hne : j ≠ i) {worker other : Worker}
    (hworker : c.workers[i]? = some worker) (hother : c.workers[j]? = some other)
    {entry : Plan.Entry} (hentry : other.held? = some entry) : worker.held? ≠ some entry := by
  intro hsame
  have hsplit := (perm_inHand hworker).nodup_iff.mp hnodup
  have hmem : entry ∈ (c.workers.eraseIdx i).filterMap Worker.held? :=
    List.mem_filterMap.mpr ⟨other, List.mem_eraseIdx_iff_getElem?.mpr ⟨j, hne, hother⟩, hentry⟩
  exact (List.nodup_append.mp hsplit).2.2 entry (by simp [hsame]) entry hmem rfl

/-! ## One move -/

section

variable {story notes : List Note} {log said : List (Plan.Entry × Exchange)} {i : Nat}
  {worker : Worker} {after : Worker × Ledger} {entry : Plan.Entry}

/-- Other entries come no further. -/
theorem part_of_other (story : List Note) (log : List (Plan.Entry × Exchange))
    (hmove : Worker.Move worker.held? c.ledger notes after)
    (hsaid : ∀ entry : Plan.Entry, worker.held? ≠ some entry → entry.part said = [])
    (hheld : worker.held? ≠ some entry) (hclaims : entry ∉ Note.claims notes) :
    entry.part (Note.calls (story ++ notes)) = entry.part (Note.calls story) ∧
      entry.part (log ++ said) = entry.part log := by
  have hafter : after.1.held? ≠ some entry := fun h =>
    (hmove.held_or_claimed h).elim hheld hclaims
  simp [hmove.part_calls_of_not_held hafter, hsaid entry hheld]

/-- A move keeps the invariant if it does so for the entries that it is about: for what the worker
waits for afterwards, and for what it has recorded. -/
theorem Kept.move (hkept : Kept journey story log c) (hchronicle : Chronicle p story c)
    (hafter : Chronicle p (story ++ notes) (c.update i after))
    (hworker : c.workers[i]? = some worker)
    (hmove : Worker.Move worker.held? c.ledger notes after)
    (hsaid : ∀ entry : Plan.Entry, worker.held? ≠ some entry → entry.part said = [])
    (hwaiting : ∀ {entry : Plan.Entry} {call : Call} {next : Attempt call.Reply → Journey},
      after.1 = .waiting entry call next →
        (journey entry).Reached (entry.part (Note.calls (story ++ notes)))
          (entry.part (log ++ said)) (.await call next))
    (hrecorded : ∀ {entry : Plan.Entry} {result : Attempt (List Report)},
      .recorded entry result ∈ notes →
        (journey entry).Reached (entry.part (Note.calls (story ++ notes)))
          (entry.part (log ++ said)) (.finished result)) :
    Kept journey (story ++ notes) (log ++ said) (c.update i after) := by
  have hnodup := hchronicle.held.nodup_iff.mp hchronicle.claims_nodup
  -- Nothing that was claimed before is claimed by this move.
  have hclaimed {entry : Plan.Entry} (hentry : entry ∈ Note.claims story) :
      entry ∉ Note.claims notes := by
    have honce := hafter.claims_nodup
    rw [Note.claims_append] at honce
    exact fun hnew => (List.nodup_append.mp honce).2.2 entry hentry entry hnew rfl
  have hinHand {j : Nat} {other : Worker} {entry : Plan.Entry}
      (hother : c.workers[j]? = some other) (hentry : other.held? = some entry) :
      entry ∈ c.inHand :=
    List.mem_filterMap.mpr ⟨other, List.mem_of_getElem? hother, hentry⟩
  have hold {entry : Plan.Entry} (hentry : entry ∈ Note.finished story ++ c.inHand) :
      entry ∈ Note.claims story := hchronicle.held.mem_iff.mpr hentry
  refine ⟨?_, ?_, ?_⟩
  · intro j entry call next hnow
    -- Another worker has made no move, and this one has not touched its entry.
    by_cases hself : j = i
    · have hset : after.1 = .waiting entry call next := by
        rw [hself, update, List.getElem?_set_self'] at hnow
        simp at hnow
        exact hnow.2
      exact hwaiting hset
    · have hthen : c.workers[j]? = some (.waiting entry call next) := by
        rwa [update, List.getElem?_set_ne (Ne.symm hself)] at hnow
      have hheld : worker.held? ≠ some entry :=
        held_ne_of_ne (List.nodup_append.mp hnodup).2.1 hself hworker hthen rfl
      have hnew := hclaimed (hold (List.mem_append_right _ (hinHand hthen rfl)))
      rcases part_of_other story log hmove hsaid hheld hnew with ⟨hcalls, hlog⟩
      rw [hcalls, hlog]
      exact hkept.waiting hthen
  · intro entry result hnote
    rcases List.mem_append.mp hnote with hbefore | hnew
    · have hfinished : entry ∈ Note.finished story := Note.mem_finished_iff.mpr ⟨result, hbefore⟩
      have hheld : worker.held? ≠ some entry := fun hheld =>
        (List.nodup_append.mp hnodup).2.2 entry hfinished entry (hinHand hworker hheld) rfl
      have hnew := hclaimed (hold (List.mem_append_left _ hfinished))
      rcases part_of_other story log hmove hsaid hheld hnew with ⟨hcalls, hlog⟩
      rw [hcalls, hlog]
      exact hkept.recorded hbefore
    · exact hrecorded hnew
  · intro entry hentry
    rw [Note.claims_append, List.mem_append, not_or] at hentry
    have hheld : worker.held? ≠ some entry := fun hheld =>
      hentry.1 (hold (List.mem_append_right _ (hinHand hworker hheld)))
    rcases part_of_other story log hmove hsaid hheld hentry.2 with ⟨hcalls, hlog⟩
    rw [hcalls, hlog]
    exact hkept.unclaimed hentry.1

/-- An entry that has just been claimed is at the start of its journey. -/
theorem Kept.reached_of_unclaimed (hkept : Kept journey story log c)
    (hnew : entry ∉ Note.claims story) (hsaid : entry.part said = []) {left : Journey}
    (hjourney : journey entry = left)
    (hcalls : entry.part (Note.calls notes) = left.call?.toList) :
    (journey entry).Reached (entry.part (Note.calls (story ++ notes)))
      (entry.part (log ++ said)) left := by
  rcases hkept.unclaimed hnew with ⟨hstory, hlog⟩
  have hbegun : entry.part (Note.calls (story ++ notes)) = left.call?.toList := by
    rw [Note.calls_append, Plan.Entry.part_append, hstory, hcalls, List.nil_append]
  have hnone : entry.part (log ++ said) = [] := by
    rw [Plan.Entry.part_append, hlog, hsaid, List.nil_append]
  rw [hbegun, hnone, hjourney]
  exact ⟨.start, by simp⟩

end

/-! ## Any number of events -/

/-- What a move claims is claimed once, and has not been claimed before. -/
theorem claims_new {story notes : List Note} (hafter : Chronicle p (story ++ notes) c) :
    (Note.claims notes).Nodup ∧
      ∀ {entry : Plan.Entry}, entry ∈ Note.claims notes → entry ∉ Note.claims story := by
  have honce := hafter.claims_nodup
  rw [Note.claims_append, List.nodup_append] at honce
  exact ⟨honce.2.1, fun hclaimed hold => honce.2.2 _ hold _ hclaimed rfl⟩

theorem Kept.begun {story : List Note} {log : List (Plan.Entry × Exchange)}
    (hkept : Kept journey story log c) (hchronicle : Chronicle p story c) {i : Nat}
    (hworker : c.workers[i]? = some .idle)
    (hafter : Chronicle p (story ++ Worker.claimNotes journey c.ledger.queue c.ledger)
      (c.update i (Worker.claim journey c.ledger))) :
    Kept journey (story ++ Worker.claimNotes journey c.ledger.queue c.ledger) (log ++ [])
      (c.update i (Worker.claim journey c.ledger)) := by
  have hmove : Worker.Move none c.ledger (Worker.claimNotes journey c.ledger.queue c.ledger)
      (Worker.claim journey c.ledger) := Worker.move_claim c.ledger
  have hnew := claims_new hafter
  refine hkept.move hchronicle hafter hworker hmove (fun _ _ => rfl) ?_ ?_
  · intro entry call next hwaiting
    exact hkept.reached_of_unclaimed (hnew.2 (Worker.claimed_of_waiting hwaiting)) rfl
      (Worker.journey_of_claimFrom hwaiting) (hmove.part_calls_of_waiting hwaiting)
  · intro entry result hnote
    rcases Worker.claimed_of_recorded hnew.1 hnote with ⟨hclaimed, hheld⟩
    exact hkept.reached_of_unclaimed (hnew.2 hclaimed) rfl
      (Worker.journey_of_claimNotes hnote) (hmove.part_calls_of_not_held hheld)

section

variable {story : List Note} {log : List (Plan.Entry × Exchange)} {i : Nat} {entry : Plan.Entry}
  {call : Call} {next : Attempt call.Reply → Journey}

theorem part_exchange_of_ne {other : Plan.Entry} (hother : some entry ≠ some other)
    (x : Exchange) : other.part [(entry, x)] = [] :=
  other.part_other x fun hsame => hother (congrArg some hsame)

theorem goOn_finished (journey : Plan.Entry → Journey) (entry : Plan.Entry)
    (result : Attempt (List Report)) (l : Ledger) :
    Worker.goOn journey entry (.finished result) l =
      Worker.claimFrom journey l.queue (l.record entry result) := by
  rw [← l.queue_record entry result]
  rfl

/-- The worker records the result of its entry and claims another one. -/
theorem Kept.finish (hkept : Kept journey story log c) (hchronicle : Chronicle p story c)
    (hworker : c.workers[i]? = some (.waiting entry call next)) {x : Exchange}
    {result : Attempt (List Report)}
    (hreached : ∀ {notes : List Note}, entry.part (Note.calls notes) = [] →
      (journey entry).Reached (entry.part (Note.calls (story ++ notes)))
        (entry.part (log ++ [(entry, x)])) (.finished result))
    (hafter : Chronicle p (story ++ Worker.goOnNotes journey entry (.finished result) c.ledger)
      (c.update i (Worker.goOn journey entry (.finished result) c.ledger))) :
    Kept journey (story ++ Worker.goOnNotes journey entry (.finished result) c.ledger)
      (log ++ [(entry, x)])
      (c.update i (Worker.goOn journey entry (.finished result) c.ledger)) := by
  have hmove : Worker.Move (some entry) c.ledger
      (Worker.goOnNotes journey entry (.finished result) c.ledger)
      (Worker.goOn journey entry (.finished result) c.ledger) :=
    Worker.move_goOn entry (.finished result) c.ledger
  have hnew := claims_new hafter
  rw [goOn_finished] at hmove hafter ⊢
  -- The old entry of the worker is not among those that it claims.
  have hold : entry ∈ Note.claims story := by
    refine hchronicle.held.mem_iff.mpr (List.mem_append_right _ ?_)
    exact List.mem_filterMap.mpr ⟨_, List.mem_of_getElem? hworker, rfl⟩
  have hfresh {other : Plan.Entry} (hclaimed : other ∈ Note.claims
      (Worker.claimNotes journey c.ledger.queue (c.ledger.record entry result))) :
      other ∉ Note.claims story ∧ other.part [(entry, x)] = [] := by
    have hunclaimed := hnew.2 hclaimed
    refine ⟨hunclaimed, other.part_other x ?_⟩
    rintro rfl
    exact hunclaimed hold
  refine hkept.move hchronicle hafter hworker hmove (fun _ h => part_exchange_of_ne h x) ?_ ?_
  · intro other call' next' hwaiting
    rcases hfresh (Worker.claimed_of_waiting hwaiting) with ⟨hunclaimed, hsaid⟩
    exact hkept.reached_of_unclaimed hunclaimed hsaid (Worker.journey_of_claimFrom hwaiting)
      (hmove.part_calls_of_waiting hwaiting)
  · intro other result' hnote
    rcases List.mem_cons.mp hnote with hhead | htail
    · cases hhead
      refine hreached (hmove.part_calls_of_not_held fun hheld => ?_)
      exact hnew.2 (Worker.claimed_of_held hheld) hold
    · rcases Worker.claimed_of_recorded hnew.1 htail with ⟨hclaimed, hheld⟩
      rcases hfresh hclaimed with ⟨hunclaimed, hsaid⟩
      exact hkept.reached_of_unclaimed hunclaimed hsaid (Worker.journey_of_claimNotes htail)
        (hmove.part_calls_of_not_held hheld)

theorem Kept.answered (hkept : Kept journey story log c) (hchronicle : Chronicle p story c)
    (hworker : c.workers[i]? = some (.waiting entry call next)) (answer : Attempt call.Reply)
    (hafter : Chronicle p (story ++ Worker.goOnNotes journey entry (next answer) c.ledger)
      (c.update i (Worker.goOn journey entry (next answer) c.ledger))) :
    Kept journey (story ++ Worker.goOnNotes journey entry (next answer) c.ledger)
      (log ++ [(entry, ⟨call, answer⟩)])
      (c.update i (Worker.goOn journey entry (next answer) c.ledger)) := by
  -- The answer takes the entry of the worker one call further.
  rcases hkept.waiting hworker with ⟨hpast, hbegun⟩
  have hreached {notes : List Note}
      (hcalls : entry.part (Note.calls notes) = (next answer).call?.toList) :
      (journey entry).Reached (entry.part (Note.calls (story ++ notes)))
        (entry.part (log ++ [(entry, (⟨call, answer⟩ : Exchange))])) (next answer) := by
    rw [Note.calls_append, Plan.Entry.part_append, Plan.Entry.part_append, Plan.Entry.part_self,
      hcalls, hbegun]
    exact ⟨hpast.further answer, by simp [Journey.call?]⟩
  cases hnext : next answer with
  | await call' next' =>
      rw [hnext] at hafter hreached
      have hmove : Worker.Move (some entry) c.ledger
          (Worker.goOnNotes journey entry (.await call' next') c.ledger)
          (Worker.goOn journey entry (.await call' next') c.ledger) :=
        Worker.move_goOn entry (.await call' next') c.ledger
      refine hkept.move hchronicle hafter hworker hmove (fun _ h => part_exchange_of_ne h _) ?_ ?_
      · intro other call'' next'' hwaiting
        cases hwaiting
        exact hreached (hmove.part_calls_of_waiting rfl)
      · intro other result hnote
        simp [Worker.goOnNotes] at hnote
  | finished result =>
      rw [hnext] at hafter hreached
      exact hkept.finish hchronicle hworker hreached hafter

end

theorem Kept.step {story : List Note} {log : List (Plan.Entry × Exchange)}
    (hkept : Kept journey story log c) (hchronicle : Chronicle p story c) (event : Event) :
    Kept journey (story ++ c.notes journey event) (log ++ c.exchange event)
      (c.step journey event) := by
  have hafter : Chronicle p (story ++ c.notes journey event) (c.step journey event) :=
    hchronicle.step event
  have hturn := turn_step journey c event
  generalize c.notes journey event = notes, c.exchange event = said, c.step journey event = c'
    at hturn hafter ⊢
  cases hturn with
  | begun hworker => exact hkept.begun hchronicle hworker hafter
  | answered hworker => exact hkept.answered hchronicle hworker _ hafter
  | missed => simpa using hkept

theorem Kept.run {story : List Note} {log : List (Plan.Entry × Exchange)}
    (hkept : Kept journey story log c) (hchronicle : Chronicle p story c) (events : List Event) :
    Kept journey (story ++ c.story journey events) (log ++ c.exchanges journey events)
      (c.run journey events) := by
  induction events generalizing c story log with
  | nil => simpa [Crew.story, exchanges] using hkept
  | cons event events ih =>
      simpa [Crew.story, exchanges] using ih (hkept.step hchronicle event) (hchronicle.step event)

/-- What was asked and answered in a run from its start. -/
theorem kept_run (journey : Plan.Entry → Journey) (p : Plan) (workers : Nat)
    (events : List Event) :
    Kept journey ((assemble p workers).story journey events)
      ((assemble p workers).exchanges journey events)
      ((assemble p workers).run journey events) := by
  simpa using (kept_assemble journey p workers).run (chronicle_assemble p workers) events

end Crew
end LayoutAudit
