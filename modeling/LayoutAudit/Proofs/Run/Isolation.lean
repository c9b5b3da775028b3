import LayoutAudit.Proofs.Run.Opening

/-!
# Proofs.Run.Isolation — workers whose pages are isolated

What a page answers depends on its viewport and on what was done on it.  Workers take turns in
whatever order, and each of them has a page of its own.

* `Tab`, `Pages` — a page with its past, and the answers of all pages;
* `Journey.alone` — the result of an entry that is run by itself;
* `Stage`, `Stage.play` — a crew with its pages, and the workers taking turns;
* `Stage.crew_play` — to the crew, turns are events like any others;
* `Stage.sound_play` — every result that is recorded is that of the entry by itself.
-/

namespace LayoutAudit

/-! ## Pages -/

structure Tab where
  viewport : Viewport
  calls : List Call

/-- The page that a call is about: a new one, if it is opened. -/
def Tab.facing (tab : Tab) : Call → Tab
  | .openPage viewport => ⟨viewport, []⟩
  | _ => tab

/-- What pages answer, given their viewport and what was done on them before. -/
abbrev Pages := Viewport → List Call → Reaction

/-- The answer to a call, and the page after it. -/
def Pages.browse (pages : Pages) (tab : Tab) (call : Call) : Attempt call.Reply × Tab :=
  let tab := tab.facing call
  (pages tab.viewport tab.calls call, { tab with calls := tab.calls ++ [call] })

theorem Pages.browse_of_opensPage (pages : Pages) {call : Call} (hopens : call.opensPage = true)
    (tab other : Tab) : pages.browse tab call = pages.browse other call := by
  cases call <;> simp [Call.opensPage] at hopens
  rfl

namespace Journey

/-- The result of an entry that is run by itself. -/
def alone (pages : Pages) (journey : Plan.Entry → Journey) (entry : Plan.Entry) :
    Attempt (List Report) :=
  ((journey entry).travel pages.browse ⟨entry.viewport, []⟩).1

theorem travel_await {σ : Type} (browser : σ → (call : Call) → Attempt call.Reply × σ)
    (call : Call) (next : Attempt call.Reply → Journey) (s : σ) :
    (await call next).travel browser s = (next (browser s call).1).travel browser (browser s call).2 :=
  rfl

/-- A journey that opens its page first does not see what was there before. -/
theorem alone_eq_travel (pages : Pages) {journey : Plan.Entry → Journey} {entry : Plan.Entry}
    (hfirst : (journey entry).OpensFirst) (tab : Tab) :
    ((journey entry).travel pages.browse tab).1 = alone pages journey entry := by
  unfold alone
  cases hjourney : journey entry with
  | finished result => rfl
  | await call next =>
      rw [hjourney] at hfirst
      -- After the first call the page is the same, whatever was there before.
      rw [travel_await, travel_await, pages.browse_of_opensPage hfirst.1 tab]

end Journey

/-! ## Workers taking turns -/

structure Stage where
  crew : Crew
  tabs : Nat → Tab

namespace Stage

variable {pages : Pages} {journey : Plan.Entry → Journey} {s : Stage}

def assemble (p : Plan) (workers : Nat) : Stage :=
  ⟨.assemble p workers, fun _ => ⟨default, []⟩⟩

def event (pages : Pages) (s : Stage) (i : Nat) : Crew.Event :=
  match s.crew.workers[i]? with
  | some (.waiting _ _ _) => .answer i fun call => (pages.browse (s.tabs i) call).1
  | _ => .start i

def tabAfter (pages : Pages) (s : Stage) (i : Nat) : Tab :=
  match s.crew.workers[i]? with
  | some (.waiting _ call _) => (pages.browse (s.tabs i) call).2
  | _ => s.tabs i

/-- A worker begins, or gets its answer, and goes on to its next call. -/
def turn (pages : Pages) (journey : Plan.Entry → Journey) (s : Stage) (i : Nat) : Stage :=
  ⟨s.crew.step journey (s.event pages i),
    fun j => if j = i then s.tabAfter pages i else s.tabs j⟩

def play (pages : Pages) (journey : Plan.Entry → Journey) (s : Stage) (schedule : List Nat) :
    Stage :=
  schedule.foldl (turn pages journey) s

def events (pages : Pages) (journey : Plan.Entry → Journey) (s : Stage) :
    List Nat → List Crew.Event
  | [] => []
  | i :: schedule => s.event pages i :: (s.turn pages journey i).events pages journey schedule

@[simp] theorem play_nil (s : Stage) : s.play pages journey [] = s := rfl

@[simp] theorem play_cons (s : Stage) (i : Nat) (schedule : List Nat) :
    s.play pages journey (i :: schedule) =
      (s.turn pages journey i).play pages journey schedule := rfl

theorem crew_play (s : Stage) (schedule : List Nat) :
    (s.play pages journey schedule).crew =
      s.crew.run journey (s.events pages journey schedule) := by
  induction schedule generalizing s with
  | nil => rfl
  | cons i schedule ih => exact ih (s.turn pages journey i)

/-! ## What a turn comes to -/

inductive Turn (pages : Pages) (journey : Plan.Entry → Journey) (s : Stage) (i : Nat) :
    List Note → Stage → Prop where
  | begun (hworker : s.crew.workers[i]? = some .idle) :
      Turn pages journey s i (Worker.claimNotes journey s.crew.ledger.queue s.crew.ledger)
        ⟨s.crew.update i (Worker.claim journey s.crew.ledger), s.tabs⟩
  | answered {entry : Plan.Entry} {call : Call} {next : Attempt call.Reply → Journey}
      (hworker : s.crew.workers[i]? = some (.waiting entry call next)) :
      Turn pages journey s i
        (Worker.goOnNotes journey entry (next (pages.browse (s.tabs i) call).1) s.crew.ledger)
        ⟨s.crew.update i
            (Worker.goOn journey entry (next (pages.browse (s.tabs i) call).1) s.crew.ledger),
          fun j => if j = i then (pages.browse (s.tabs i) call).2 else s.tabs j⟩
  | missed (hworker : s.crew.workers[i]? = none ∨ s.crew.workers[i]? = some .stopped) :
      Turn pages journey s i [] s

theorem turn_cases (pages : Pages) (journey : Plan.Entry → Journey) (s : Stage) (i : Nat) :
    Turn pages journey s i (s.crew.notes journey (s.event pages i)) (s.turn pages journey i) := by
  -- A worker that makes no call leaves its page as it is.
  have hsame : (fun j => if j = i then s.tabs i else s.tabs j) = s.tabs := by
    funext j
    by_cases heq : j = i
    · simp [heq]
    · simp [heq]
  rcases hworker : s.crew.workers[i]? with _ | _ | ⟨entry, call, next⟩ | _
  case none =>
    simpa [turn, event, tabAfter, Crew.step, Crew.start, Crew.notes, hworker, hsame] using
      Turn.missed (.inl hworker)
  case some.idle =>
    simpa [turn, event, tabAfter, Crew.step, Crew.start, Crew.notes, hworker, hsame] using
      Turn.begun hworker
  case some.waiting =>
    simpa [turn, event, tabAfter, Crew.step, Crew.resume, Crew.notes, hworker] using
      Turn.answered hworker
  case some.stopped =>
    simpa [turn, event, tabAfter, Crew.step, Crew.start, Crew.notes, hworker, hsame] using
      Turn.missed (.inr hworker)

end Stage

/-! ## Workers do not see each other -/

namespace Worker

variable {pages : Pages} {journey : Plan.Entry → Journey}

/-- What is left of the journey of a worker gives what its entry gives by itself. -/
def OnCourse (pages : Pages) (journey : Plan.Entry → Journey) (tab : Tab) : Worker → Prop
  | waiting entry call next =>
      ((Journey.await call next).travel pages.browse tab).1 = Journey.alone pages journey entry
  | _ => True

theorem onCourse_claimFrom (hjourney : ∀ entry, (journey entry).OpensFirst) (tab : Tab)
    (queue : List Plan.Entry) (l : Ledger) :
    (claimFrom journey queue l).1.OnCourse pages journey tab := by
  cases hworker : (claimFrom journey queue l).1 with
  | idle => trivial
  | waiting entry call next =>
      have halone := Journey.alone_eq_travel pages (hjourney entry) tab
      rw [journey_of_claimFrom hworker] at halone
      exact halone
  | stopped => trivial

theorem onCourse_goOn (hjourney : ∀ entry, (journey entry).OpensFirst) {tab : Tab}
    {entry : Plan.Entry} {j : Journey}
    (hrest : (j.travel pages.browse tab).1 = Journey.alone pages journey entry) (l : Ledger) :
    (goOn journey entry j l).1.OnCourse pages journey tab := by
  cases j with
  | await call next => exact hrest
  | finished result => exact onCourse_claimFrom hjourney tab _ _

theorem result_of_claimNotes {queue : List Plan.Entry} {l : Ledger} {entry : Plan.Entry}
    {result : Attempt (List Report)}
    (hnote : .recorded entry result ∈ claimNotes journey queue l) :
    result = Journey.alone pages journey entry := by
  rw [Journey.alone, journey_of_claimNotes hnote]
  rfl

theorem result_of_goOnNotes {tab : Tab} {current entry : Plan.Entry} {j : Journey} {l : Ledger}
    {result : Attempt (List Report)}
    (hrest : (j.travel pages.browse tab).1 = Journey.alone pages journey current)
    (hnote : .recorded entry result ∈ goOnNotes journey current j l) :
    result = Journey.alone pages journey entry := by
  cases j with
  | await call next => simp [goOnNotes] at hnote
  | finished last =>
      rcases List.mem_cons.mp hnote with hhead | hlater
      · cases hhead
        exact hrest
      · exact result_of_claimNotes hlater

end Worker

namespace Stage

variable {pages : Pages} {journey : Plan.Entry → Journey} {s : Stage} {story : List Note}

/-- Workers are on course, and what was recorded is what entries give by themselves. -/
structure Sound (pages : Pages) (journey : Plan.Entry → Journey) (story : List Note)
    (s : Stage) : Prop where
  workers : ∀ {i : Nat} {worker : Worker}, s.crew.workers[i]? = some worker →
    worker.OnCourse pages journey (s.tabs i)
  results : ∀ {entry : Plan.Entry} {result : Attempt (List Report)},
    .recorded entry result ∈ story → result = Journey.alone pages journey entry

theorem sound_assemble (pages : Pages) (journey : Plan.Entry → Journey) (p : Plan)
    (workers : Nat) : Sound pages journey [] (assemble p workers) where
  workers := by
    intro i worker hworker
    have hidle : worker = .idle :=
      List.eq_of_mem_replicate (List.mem_of_getElem? hworker)
    rw [hidle]
    trivial
  results := by simp

/-- Only the worker whose turn it is moves, and only its page changes. -/
theorem Sound.update (hsound : Sound pages journey story s) {i : Nat} {after : Worker × Ledger}
    {tab : Tab} (hafter : after.1.OnCourse pages journey tab) {j : Nat} {worker : Worker}
    (hworker : (s.crew.update i after).workers[j]? = some worker) :
    worker.OnCourse pages journey (if j = i then tab else s.tabs j) := by
  by_cases hself : j = i
  · subst hself
    have hset : worker = after.1 := by
      rw [Crew.update, List.getElem?_set_self'] at hworker
      simp at hworker
      exact hworker.2.symm
    simpa [hset] using hafter
  · have hother : s.crew.workers[j]? = some worker := by
      rwa [Crew.update, List.getElem?_set_ne (Ne.symm hself)] at hworker
    simpa [hself] using hsound.workers hother

theorem Sound.turn (hjourney : ∀ entry, (journey entry).OpensFirst)
    (hsound : Sound pages journey story s) (i : Nat) :
    Sound pages journey (story ++ s.crew.notes journey (s.event pages i))
      (s.turn pages journey i) := by
  have hturn := turn_cases pages journey s i
  generalize s.crew.notes journey (s.event pages i) = notes, s.turn pages journey i = s' at hturn ⊢
  cases hturn with
  | begun hworker =>
      refine ⟨fun {j worker} hafter => ?_, fun hnote => ?_⟩
      · have hcourse := hsound.update
          (Worker.onCourse_claimFrom hjourney (s.tabs i) _ _) hafter
        by_cases hself : j = i <;> simpa [hself] using hcourse
      · rcases List.mem_append.mp hnote with hold | hnew
        · exact hsound.results hold
        · exact Worker.result_of_claimNotes hnew
  | @answered entry call next hworker =>
      -- What is left after the answer is what was left before it.
      have hrest := hsound.workers hworker
      rw [Worker.OnCourse, Journey.travel_await] at hrest
      refine ⟨fun {j worker} hafter => ?_, fun hnote => ?_⟩
      · exact hsound.update (Worker.onCourse_goOn hjourney hrest _) hafter
      · rcases List.mem_append.mp hnote with hold | hnew
        · exact hsound.results hold
        · exact Worker.result_of_goOnNotes hrest hnew
  | missed => simpa using hsound

theorem Sound.play (hjourney : ∀ entry, (journey entry).OpensFirst)
    (hsound : Sound pages journey story s) (schedule : List Nat) :
    Sound pages journey (story ++ s.crew.story journey (s.events pages journey schedule))
      (s.play pages journey schedule) := by
  induction schedule generalizing s story with
  | nil => simpa [events, Crew.story] using hsound
  | cons i schedule ih =>
      have hnext := ih (hsound.turn hjourney i)
      rw [List.append_assoc] at hnext
      exact hnext

/-- Whatever the schedule, every result that is recorded is that of the entry by itself. -/
theorem sound_play (hjourney : ∀ entry, (journey entry).OpensFirst) (pages : Pages) (p : Plan)
    (workers : Nat) (schedule : List Nat) :
    Sound pages journey
      ((Crew.assemble p workers).story journey
        ((assemble p workers).events pages journey schedule))
      ((assemble p workers).play pages journey schedule) :=
  (sound_assemble pages journey p workers).play hjourney schedule

end Stage
end LayoutAudit
