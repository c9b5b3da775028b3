import LayoutAudit.Proofs.Session.Routing
import LayoutAudit.Session.Page
import LayoutAudit.Run.Performance

/-!
# Proofs.Session.Faults — what a driver is to blame for

Whatever a driver says or leaves unsaid, and whenever it ends, a request to it never fails for what
the run was asked to do.  Nor does anything that is made of the replies: launching, and the calls on
a page.

* `Attempt.Blameless` — no failure that is a matter of what was asked for;
* `Session.Requests.blameless_of_ending` — what becomes of a request;
* `Session.exists_events_ask` — asking is a course of events;
* `Session.ask_blameless`, `Session.launch_blameless`, `Session.call_blameless` — what a session does.
-/

namespace LayoutAudit

/-- A result that is no failure for which what was asked for is to blame. -/
def Attempt.Blameless {α : Type} (result : Attempt α) : Prop :=
  ∀ f, result = .error f → f.isConfiguration = false

theorem Attempt.blameless_ok {α : Type} (a : α) : Attempt.Blameless (.ok a) := by
  intro f h
  cases h

theorem Attempt.blameless_error {α : Type} {f : Failure} (hf : f.isConfiguration = false) :
    Attempt.Blameless (.error f : Attempt α) := by
  intro g h
  cases h
  exact hf

theorem Attempt.Blameless.map {α β : Type} {result : Attempt α} (h : result.Blameless)
    (f : α → β) : Attempt.Blameless (result.map f) := by
  cases result with
  | ok a => exact blameless_ok (f a)
  | error g => exact blameless_error (h g rfl)

namespace Session

/-! ## Requests -/

namespace Requests

theorem blameless_of_ending {events : List Event} {id : Nat} {result : Attempt Reply}
    (h : Ending events id result) : result.Blameless := by
  cases h with
  | @replied text reply hline hread hown =>
      unfold Reply.outcome
      split
      · exact Attempt.blameless_ok reply
      · exact Attempt.blameless_error rfl
  | gone => exact Attempt.blameless_error rfl
  | lost => exact Attempt.blameless_error rfl
  | shutDown => exact Attempt.blameless_error rfl
  | unwritten => exact Attempt.blameless_error rfl

theorem Reachable.run {s : Requests} (h : s.Reachable) (events : List Event) :
    (s.run events).Reachable := by
  rcases h with ⟨past, rfl⟩
  exact ⟨past ++ events, List.foldl_append⟩

theorem result?_eq_some_iff {s : Requests} {id : Nat} {result : Attempt Reply} :
    s.result? id = some result ↔ s.stages[id]? = some (.finished result) := by
  unfold result?
  split
  · rename_i found hfound
    simp [hfound]
  · rename_i hunfinished
    simpa using fun hfinished => hunfinished result hfinished

theorem Reachable.blameless {s : Requests} (h : s.Reachable) {id : Nat} {result : Attempt Reply}
    (hresult : s.result? id = some result) : result.Blameless := by
  rcases h with ⟨past, rfl⟩
  exact blameless_of_ending ((accounted_run past).stages id _ (result?_eq_some_iff.1 hresult))

end Requests

/-! ## Asking -/

variable {σ : Type} {pipe : Pipe σ}

theorem exists_events_hear (requests : Requests) (said : Said) :
    ∃ events, hear requests said = requests.run events := by
  have hlines : said.lines.foldl Requests.readLine requests =
      requests.run (said.lines.map .line) := by
    rw [Requests.run, List.foldl_map]
    rfl
  unfold hear
  rw [hlines]
  split
  · exact ⟨said.lines.map .line ++ [.endOfOutput], by simp [Requests.run, Requests.step]⟩
  · exact ⟨said.lines.map .line, rfl⟩

theorem exists_events_tell (peer : Peer σ) (id : Nat) (command : Command) (s : Session σ) :
    ∃ events, (s.tell peer id command pipe).requests = s.requests.run events := by
  unfold tell
  split
  · split
    · rcases exists_events_hear (s.requests.written id none)
        (peer.respond id command s.driver).1 with ⟨events, hevents⟩
      exact ⟨.written id none :: events, hevents⟩
    · rename_i reason hrefused
      exact ⟨[.written id (some reason), .endOfOutput], rfl⟩
  · exact ⟨[.written id none], rfl⟩

/-- Asking is a course of events: the request begins, is told to the driver if it is in the table,
and looks at what has come for it. -/
theorem exists_events_ask (peer : Peer σ) (command : Command) (s : Session σ) :
    ∃ events, (s.ask peer command pipe).2.requests = s.requests.run events ∧
      (s.ask peer command pipe).1 =
        ((s.requests.run events).result? s.requests.stages.length).getD
          (.error (.driver .lost)) := by
  let id := s.requests.stages.length
  let entered : Session σ := { s with requests := (s.requests.step .draw).register id }
  have htold : ∃ events,
      (if entered.requests.isWaiting id then entered.tell peer id command pipe
        else entered).requests = entered.requests.run events := by
    split
    · exact exists_events_tell peer id command entered
    · exact ⟨[], rfl⟩
  rcases htold with ⟨events, hevents⟩
  have hcourse : (s.ask peer command pipe).2.requests =
      s.requests.run (.draw :: .register id :: (events ++ [.collect id])) := by
    calc
      (s.ask peer command pipe).2.requests
          = (if entered.requests.isWaiting id then entered.tell peer id command pipe
              else entered).requests.collect id := rfl
      _ = (entered.requests.run events).collect id := by rw [hevents]
      _ = s.requests.run (.draw :: .register id :: (events ++ [.collect id])) := by
            simp [Requests.run, Requests.step, entered]
  refine ⟨_, hcourse, ?_⟩
  rw [← hcourse]
  rfl

theorem ask_reachable (peer : Peer σ) (command : Command) {s : Session σ}
    (hs : s.requests.Reachable) : (s.ask peer command pipe).2.requests.Reachable := by
  rcases exists_events_ask peer command s with ⟨events, hcourse, -⟩
  rw [hcourse]
  exact hs.run events

theorem ask_blameless (peer : Peer σ) (command : Command) {s : Session σ}
    (hs : s.requests.Reachable) : (s.ask peer command pipe).1.Blameless := by
  rcases exists_events_ask peer command s with ⟨events, -, hanswer⟩
  rw [hanswer]
  cases hresult : (s.requests.run events).result? s.requests.stages.length with
  | none => exact Attempt.blameless_error rfl
  | some result => exact (hs.run events).blameless hresult

/-! ## Launching -/

theorem launch_blameless (peer : Peer σ) (options : LaunchOptions) :
    (launch peer options pipe).1.Blameless := by
  unfold launch
  split
  · exact Attempt.blameless_error rfl
  · rename_i driver hstart
    exact (ask_blameless peer .ping (s := ⟨.start, driver⟩) ⟨[], rfl⟩).map _

theorem launch_reachable (peer : Peer σ) (options : LaunchOptions) {s : Session σ}
    (hs : (launch peer options pipe).2 = some s) : s.requests.Reachable := by
  unfold launch at hs
  split at hs
  · cases hs
  · rename_i driver hstart
    rw [← Option.some.inj hs]
    exact ask_reachable peer .ping (s := ⟨.start, driver⟩) ⟨[], rfl⟩

/-- A launch that succeeds leaves a session. -/
theorem exists_of_launch (peer : Peer σ) (options : LaunchOptions) {after : Option (Session σ)}
    (h : launch peer options pipe = (.ok (), after)) : ∃ s, after = some s := by
  unfold launch at h
  split at h
  · cases (Prod.mk.inj h).1
  · exact ⟨_, (Prod.mk.inj h).2.symm⟩

/-! ## Errands -/

/-- An errand whose result is as blameless as the reply that it is concluded from. -/
def Errand.Blameless {α : Type} : Errand α → Prop
  | .settled result => result.Blameless
  | .told _ conclude => ∀ answer : Attempt Reply, answer.Blameless → (conclude answer).Blameless

theorem Page.opening_blameless (viewport : Viewport) : (Page.opening viewport).Blameless := by
  intro answer h
  cases answer with
  | error f => exact Attempt.blameless_error (h f rfl)
  | ok reply =>
      simp only [bind, Except.bind]
      cases reply.page with
      | some id => exact Attempt.blameless_ok _
      | none => exact Attempt.blameless_error rfl

theorem Page.navigating_blameless (site path : String) (p : Page) :
    (p.navigating site path).Blameless := by
  unfold Page.navigating
  split
  · intro answer h
    cases answer with
    | ok reply => exact Attempt.blameless_ok ()
    | error f => exact Attempt.blameless_error rfl
  · exact Attempt.blameless_error rfl

theorem Page.measuring_blameless (spec : Spec) (p : Page) : (p.measuring spec).Blameless := by
  intro answer h
  cases answer with
  | error f => exact Attempt.blameless_error (h f rfl)
  | ok reply =>
      simp only [bind, Except.bind]
      cases reply.measurement with
      | some m => exact Attempt.blameless_ok _
      | none => exact Attempt.blameless_error rfl

theorem Page.closing_blameless (p : Page) : p.closing.1.Blameless := by
  unfold Page.closing
  split
  · exact Attempt.blameless_ok ()
  · intro answer h
    exact h.map _

section

variable {α : Type} {errand : Errand α} {s : Session σ}

theorem Errand.carryOut_blameless (peer : Peer σ) (h : errand.Blameless)
    (hs : s.requests.Reachable) : (errand.carryOut peer s pipe).1.Blameless := by
  cases errand with
  | settled result => exact h
  | told command conclude => exact h _ (ask_blameless peer command hs)

theorem Errand.carryOut_reachable (peer : Peer σ) (errand : Errand α)
    (hs : s.requests.Reachable) : (errand.carryOut peer s pipe).2.requests.Reachable := by
  cases errand with
  | settled result => exact hs
  | told command conclude => exact ask_reachable peer command hs

theorem responseOf_failure {result : Attempt α} (h : result.Blameless) (errand : Errand α)
    (m : Measurement) {f : Failure} (hf : (responseOf errand result m).failure = some f) :
    f.isConfiguration = false := by
  cases result with
  | ok a => cases hf
  | error g =>
      cases hf
      exact h _ rfl

end

/-! ## Calls -/

/-- Whatever is called, the driver's answer is no matter of what was asked for. -/
theorem call_blameless (peer : Peer σ) (site : String) (c : Call) (page : Option Page)
    {s : Session σ} (hs : s.requests.Reachable) :
    (∀ f, (call peer site c page s pipe).1.failure = some f → f.isConfiguration = false) ∧
      (call peer site c page s pipe).2.2.requests.Reachable := by
  have hdone {α : Type} {errand : Errand α} (h : errand.Blameless) (m : Measurement) :
      (∀ f, (responseOf errand (errand.carryOut peer s pipe).1 m).failure = some f →
        f.isConfiguration = false) ∧ (errand.carryOut peer s pipe).2.requests.Reachable :=
    ⟨fun f hf => responseOf_failure (Errand.carryOut_blameless peer h hs) errand m hf,
      Errand.carryOut_reachable peer errand hs⟩
  cases c with
  | openPage viewport => exact hdone (Page.opening_blameless viewport) _
  | navigate path =>
      cases page with
      | none => exact ⟨fun f hf => Option.some.inj hf ▸ rfl, hs⟩
      | some p => exact hdone (Page.navigating_blameless site path p) _
  | measure spec =>
      cases page with
      | none => exact ⟨fun f hf => Option.some.inj hf ▸ rfl, hs⟩
      | some p => exact hdone (Page.measuring_blameless spec p) _
  | close =>
      cases page with
      | none => exact ⟨fun f hf => Option.some.inj hf ▸ rfl, hs⟩
      | some p => exact hdone (Page.closing_blameless p) _

end Session
end LayoutAudit
