import Mathlib.Data.List.Induction
import LayoutAudit.Proofs.Session.Routing
import LayoutAudit.Proofs.Session.Faults
import LayoutAudit.Session.Traffic

/-!
# Proofs.Session.Ends — how calls on pages come to their end

* `Requests.Refused` — the line of a request could not be written, for a reason of the system;
* `Requests.finished_system_iff` — nothing else makes a request fail with a reason of the system;
* `exists_result_ask` — what a session asks ends as its request does in some course of events;
* `Traffic.Promised`, `Traffic.Kept` — the ends that calls are meant to have;
* `Traffic.Turn` — everything that an event can do;
* `Traffic.Faithful`, `Traffic.ClosedOnce` — what every event keeps;
* `Traffic.exists_ends_carryOut` — what a session carries out ends as its call can end;
* `Traffic.calls_end_as_meant_iff` — calls end as they are meant to, exactly if no line is refused.
-/

namespace LayoutAudit
namespace Session

namespace Requests

variable {id : Nat} {past : List Event}

theorem run_append (s : Requests) (first rest : List Event) :
    s.run (first ++ rest) = (s.run first).run rest := List.foldl_append

/-- The line of a request could not be written, although the input of the driver was open. -/
def Refused (past : List Event) (id : Nat) (reason : String) : Prop :=
  ∃ before mail after, past = before ++ .written id (some reason) :: after ∧
    (start.run before).stages[id]? = some (.writing mail) ∧ (start.run before).inputOpen = true

theorem Refused.mono {reason : String} (hrefused : Refused past id reason) (more : List Event) :
    Refused (past ++ more) id reason := by
  rcases hrefused with ⟨before, mail, after, rfl, hstage, hopen⟩
  exact ⟨before, mail, after ++ more, by simp, hstage, hopen⟩

/-- A reply is no failure of the system. -/
theorem outcome_ne_system (reply : Reply) (reason : String) :
    reply.outcome ≠ .error (.system reason) := by
  cases hok : reply.ok <;> simp [Reply.outcome, hok]

/-- No request comes to its end by what it receives. -/
theorem finished_of_receive {stage : Option Stage} {mail : Mail} {result : Attempt Reply}
    (hreceived : stage.map (·.receive mail) = some (.finished result)) :
    stage = some (.finished result) := by
  rcases Option.map_eq_some_iff.mp hreceived with ⟨before, rfl, hbefore⟩
  rcases before with _ | (_ | _ | _) | (_ | _ | _) | _
  case writing.expected => cases hbefore
  case waiting.expected => cases hbefore
  all_goals exact congrArg some hbefore

/-- Only a line that is not written makes a request end with a failure of the system. -/
theorem system_step {s : Requests} {event : Event} {reason : String}
    (hafter : (s.step event).stages[id]? = some (.finished (.error (.system reason)))) :
    s.stages[id]? = some (.finished (.error (.system reason))) ∨
      event = .written id (some reason) ∧
        ∃ mail, s.stages[id]? = some (.writing mail) ∧ s.inputOpen = true := by
  have hchange := change_step s event id
  generalize hseen : s.view id = seen, hthen : (s.step event).view id = after at hchange
  have hbefore : s.stages[id]? = seen.1 := congrArg Prod.fst hseen
  have hnow : after.1 = some (.finished (.error (.system reason))) :=
    (congrArg Prod.fst hthen).symm.trans hafter
  rw [hbefore]
  -- A driver's reply blames the driver, and so do a closed table and an input that is shut down.
  cases hchange with
  | kept => exact .inl hnow
  | unsent hwhy =>
      cases hwhy with
      | shutDown hshut => cases hnow
      | refused hopen =>
          cases hnow
          exact .inr ⟨rfl, _, rfl, hopen⟩
  | replied hread hown => exact .inl (finished_of_receive hnow)
  | dropped => exact .inl (finished_of_receive hnow)
  | collected =>
      exact absurd (Stage.finished.inj (Option.some.inj hnow)) (outcome_ne_system _ reason)
  | _ => cases hnow

/-- A request ends with a failure of the system exactly if its line could not be written. -/
theorem finished_system_iff {reason : String} :
    (start.run past).stages[id]? = some (.finished (.error (.system reason))) ↔
      Refused past id reason := by
  constructor
  · intro hend
    induction past using List.reverseRecOn with
    | nil => simp [start] at hend
    | append_singleton past event ih =>
        rw [run_append, run_cons, run_nil] at hend
        rcases system_step hend with hbefore | ⟨rfl, mail, hstage, hopen⟩
        · exact (ih hbefore).mono [event]
        · exact ⟨past, mail, [], rfl, hstage, hopen⟩
  · rintro ⟨before, mail, after, rfl, hstage, hopen⟩
    rw [run_append, run_cons]
    refine finished_run ?_ after
    have hview := view_giveUp_self hstage (.system reason)
    rw [← written_of_unwritten hstage (.refused hopen)] at hview
    exact congrArg Prod.fst hview

/-! ## A single request -/

/-- A request that has just begun enters the table, unless it finds it closed. -/
theorem register_cases {r : Requests} {id : Nat} (hdrawn : r.stages[id]? = some .drawn) :
    ((r.register id).stages[id]? = some (.finished (.error (.driver .gone))) ∧
        (r.register id).isWaiting id = false) ∨
      (r.register id).stages[id]? = some (.writing .expected) ∧
        (r.register id).isWaiting id = true := by
  cases htable : r.table with
  | none =>
      refine .inl ⟨?_, ?_⟩
      · simpa [register, hdrawn, htable] using getElem?_put_self hdrawn
      · simp [register, hdrawn, htable, isWaiting, put]
  | some ids =>
      refine .inr ⟨?_, ?_⟩
      · simpa [register, hdrawn, htable] using getElem?_put_self hdrawn
      · simp [register, hdrawn, htable, isWaiting]

/-- A request whose line is not written ends with that. -/
theorem result?_of_unwritten {r : Requests} {id : Nat} {refusal : Option String} {f : Failure}
    (hstage : r.stages[id]? = some (.writing .expected)) (hwhy : Unwritten r refusal f) :
    (r.written id refusal).result? id = some (.error f) := by
  have hview := view_giveUp_self hstage f
  rw [← written_of_unwritten hstage hwhy] at hview
  exact result?_eq_some_iff.2 (congrArg Prod.fst hview)

/-- If nothing comes for a request that is in the table before the output ends, it is lost. -/
theorem result?_of_silence {r : Requests} {id : Nat}
    (hstage : r.stages[id]? = some (.writing .expected)) (hwaits : r.isWaiting id = true)
    (hopen : r.inputOpen = true) :
    (r.run [.written id none, .endOfOutput, .collect id]).result? id =
      some (.error (.driver .lost)) := by
  have hsent : (r.written id none).stages[id]? = some (.waiting .expected) := by
    simpa [written, hstage, hopen] using getElem?_put_self hstage
  have hstill : (r.written id none).isWaiting id = true := by
    simpa [written, hstage, hopen] using hwaits
  have hdropped : (r.written id none).closeTable.stages[id]? = some (.waiting .dropped) := by
    simp [closeTable, hsent, hstill, Stage.receive]
  refine result?_eq_some_iff.2 ?_
  show ((r.written id none).closeTable.collect id).stages[id]? = _
  simpa [collect, hdropped] using getElem?_put_self hdropped

end Requests

/-- What comes of asking is the end of the request in some course of events. -/
theorem exists_result_ask {σ : Type} (peer : Peer σ) (command : Command) (s : Session σ)
    (pipe : Pipe σ) :
    ∃ events, ((s.requests.step .draw).run events).result? s.requests.stages.length =
      some (s.ask peer command pipe).1 := by
  let id := s.requests.stages.length
  let r := (s.requests.step .draw).register id
  let entered : Session σ := { s with requests := r }
  let told := if r.isWaiting id then entered.tell peer id command pipe else entered
  have hask : (s.ask peer command pipe).1 =
      ((told.requests.collect id).result? id).getD (.error (.driver .lost)) := rfl
  -- A request that has come to its end does not collect anything.
  have hended {result : Attempt Reply} (hresult : told.requests.result? id = some result) :
      (s.ask peer command pipe).1 = result := by
    have hstays := Requests.finished_step (Requests.result?_eq_some_iff.1 hresult) (.collect id)
    have hcollected : (told.requests.collect id).result? id = some result :=
      Requests.result?_eq_some_iff.2 hstays
    rw [hask, hcollected]
    rfl
  have hdrawn : (s.requests.step .draw).stages[id]? = some .drawn := by simp [id, Requests.step]
  -- The table can be closed, the input shut down, or the line refused before the driver hears.
  rcases Requests.register_cases hdrawn with ⟨hgone, hout⟩ | ⟨hstage, hwaits⟩
  · have htold : told = entered := if_neg (by simp [r, hout])
    have hresult : r.result? id = some (.error (.driver .gone)) :=
      Requests.result?_eq_some_iff.2 hgone
    rw [hended (by rw [htold]; exact hresult)]
    exact ⟨[.register id], hresult⟩
  have htold : told = entered.tell peer id command pipe := if_pos hwaits
  cases hopen : r.inputOpen with
  | false =>
      have hrequests : told.requests = r.written id none := by
        rw [htold]
        simp [tell, entered, hopen]
      have hresult : (r.written id none).result? id = some (.error (.driver .shutDown)) :=
        Requests.result?_of_unwritten hstage (.shutDown hopen)
      rw [hended (hrequests ▸ hresult)]
      exact ⟨[.register id, .written id none], hresult⟩
  | true =>
      cases hpipe : pipe (command.line id) s.driver with
      | some reason =>
          have hrequests : told.requests = (r.written id (some reason)).step .endOfOutput := by
            rw [htold]
            simp [tell, entered, hopen, hpipe, Requests.step]
          have hresult : (r.written id (some reason)).result? id = some (.error (.system reason)) :=
            Requests.result?_of_unwritten hstage (.refused hopen)
          have hstays := Requests.finished_step (Requests.result?_eq_some_iff.1 hresult)
            .endOfOutput
          rw [hended (hrequests ▸ Requests.result?_eq_some_iff.2 hstays)]
          exact ⟨[.register id, .written id (some reason)], hresult⟩
      | none =>
          rcases exists_events_hear (r.written id none)
            (peer.respond id command s.driver).1 with ⟨events, hheard⟩
          have hrequests : told.requests = (r.written id none).run events := by
            rw [htold, ← hheard]
            simp [tell, entered, hopen, hpipe]
          rw [hask, hrequests]
          cases hresult : (((r.written id none).run events).collect id).result? id with
          | some result =>
              refine ⟨.register id :: .written id none :: (events ++ [.collect id]), ?_⟩
              rw [Requests.run_cons, Requests.run_cons, Requests.run_append]
              exact hresult
          | none =>
              -- A driver that says nothing more counts as one that has ended.
              exact ⟨[.register id, .written id none, .endOfOutput, .collect id],
                Requests.result?_of_silence hstage hwaits hopen⟩

namespace Traffic

open Requests (Refused)

variable {site : String} {t : Traffic} {call : Call} {events : List Event}

/-! ## What calls come to -/

/-- The ends that a call is meant to have: going to a path fails with a failure that names the path,
and anything else with a failure of the driver. -/
def Promised : Call → Attempt Fruit → Prop
  | .navigate _ path, result =>
      result = .ok .done ∨ ∃ reason, result = .error (.navigation path reason)
  | _, result => ∀ f, result = .error f → ∃ cause, f = .driver cause

def Call.isNavigation : Call → Bool
  | .navigate _ _ => true
  | _ => false

/-- An errand that ends as its call is meant to.  Unless it goes to a path, it fails as its request
does. -/
def Kept (call : Call) : Errand Fruit → Prop
  | .settled result => Promised call result
  | .told _ conclude =>
      (∀ reply, Promised call (conclude (.ok reply))) ∧
        ∀ f, if call.isNavigation then Promised call (conclude (.error f))
          else conclude (.error f) = .error f

theorem kept_opening (viewport : Viewport) :
    Kept (.openPage viewport) ((Page.opening viewport).map .opened) := by
  refine ⟨fun reply f hfailed => ?_, fun f => rfl⟩
  cases hpage : reply.page with
  | some id => simp [hpage, bind, Except.bind, Except.map, pure, Except.pure] at hfailed
  | none =>
      simp [hpage, bind, Except.bind, Except.map] at hfailed
      exact ⟨_, hfailed.symm⟩

theorem kept_navigating (page : Nat) (path : String) (p : Page) :
    Kept (.navigate page path) ((p.navigating site path).map fun _ => .done) := by
  unfold Page.navigating
  split
  · exact ⟨fun reply => .inl rfl, fun f => .inr ⟨_, rfl⟩⟩
  · exact .inr ⟨_, rfl⟩

theorem kept_measuring (page : Nat) (spec : Spec) (p : Page) :
    Kept (.measure page spec) ((p.measuring spec).map .measured) := by
  refine ⟨fun reply f hfailed => ?_, fun f => rfl⟩
  cases hmeasured : reply.measurement with
  | some m => simp [hmeasured, bind, Except.bind, Except.map, pure, Except.pure] at hfailed
  | none =>
      simp [hmeasured, bind, Except.bind, Except.map] at hfailed
      exact ⟨_, hfailed.symm⟩

theorem kept_closing (page : Nat) (p : Page) :
    Kept (.close page) (p.closing.1.map fun _ => .done) := by
  unfold Page.closing
  split
  · exact fun f hfailed => nomatch hfailed
  · exact ⟨fun reply f hfailed => (nomatch hfailed), fun f => rfl⟩

/-- Whatever a call has to do, it ends as it is meant to. -/
theorem kept_of_errand? {errand : Errand Fruit} {closed : List Nat}
    (herrand : t.errand? site call = some (errand, closed)) : Kept call errand := by
  cases call with
  | openPage viewport =>
      cases herrand
      exact kept_opening viewport
  | navigate page path =>
      rcases Option.map_eq_some_iff.mp herrand with ⟨p, -, hsame⟩
      cases hsame
      exact kept_navigating page path p
  | measure page spec =>
      rcases Option.map_eq_some_iff.mp herrand with ⟨p, -, hsame⟩
      cases hsame
      exact kept_measuring page spec p
  | close page =>
      rcases Option.map_eq_some_iff.mp herrand with ⟨p, -, hsame⟩
      cases hsame
      exact kept_closing page p

/-- A page is told to be closed only if that is called for. -/
theorem close_of_errand? {number : Nat} {conclude : Attempt Reply → Attempt Fruit}
    {closed : List Nat} (herrand : t.errand? site call = some (.told (.close number) conclude, closed)) :
    ∃ page, call = .close page := by
  cases call with
  | openPage viewport => cases herrand
  | navigate page path =>
      rcases Option.map_eq_some_iff.mp herrand with ⟨p, -, hsame⟩
      by_cases hpath : path.toList.head? = some '/' <;>
        simp [Page.navigating, hpath, Errand.map] at hsame
  | measure page spec =>
      rcases Option.map_eq_some_iff.mp herrand with ⟨p, -, hsame⟩
      cases hsame
  | close page => exact ⟨page, rfl⟩

/-! ## Steps -/

inductive Turn (site : String) (t : Traffic) : Event → Traffic → Prop where
  | happens {event : Requests.Event} :
      Turn site t (.happens event) { t with course := t.course ++ [event] }
  | nowhere {call : Call} (hnone : t.errand? site call = none) : Turn site t (.calls call) t
  | settled {call : Call} {result : Attempt Fruit} {closed : List Nat}
      (herrand : t.errand? site call = some (.settled result, closed)) :
      Turn site t (.calls call)
        { t with settled := t.settled ++ [(call, result)], closed := closed }
  | told {call : Call} {command : Command} {conclude : Attempt Reply → Attempt Fruit}
      {closed : List Nat} (herrand : t.errand? site call = some (.told command conclude, closed)) :
      Turn site t (.calls call)
        { t with
          course := t.course ++ [.draw]
          jobs := t.jobs ++ [⟨t.requests.stages.length, call, command, conclude⟩]
          closed := closed }

theorem turn_step (site : String) (t : Traffic) (event : Event) :
    Turn site t event (t.step site event) := by
  cases event with
  | happens event => exact .happens
  | calls call =>
      rcases herrand : t.errand? site call with _ | ⟨result | ⟨command, conclude⟩, closed⟩ <;>
        simp only [step, herrand]
      · exact .nowhere herrand
      · exact .settled herrand
      · exact .told herrand

@[simp] theorem run_nil (site : String) (t : Traffic) : t.run site [] = t := rfl

theorem run_concat (site : String) (t : Traffic) (past : List Event) (event : Event) :
    t.run site (past ++ [event]) = (t.run site past).step site event := by
  simp [run]

theorem run_append (site : String) (t : Traffic) (first rest : List Event) :
    t.run site (first ++ rest) = (t.run site first).run site rest := List.foldl_append

/-! ## How calls end -/

/-- All calls, at their end or not, are meant to end as they are meant to. -/
structure Faithful (t : Traffic) : Prop where
  settled : ∀ call result, (call, result) ∈ t.settled → Promised call result
  jobs : ∀ job ∈ t.jobs, Kept job.call (.told job.command job.conclude)
  commands : ∀ job ∈ t.jobs, ∀ number, job.command = .close number →
    ∃ page, job.call = .close page

theorem Faithful.step (hfaithful : t.Faithful) (event : Event) : (t.step site event).Faithful := by
  have hturn := turn_step site t event
  generalize t.step site event = next at hturn
  cases hturn with
  | happens => exact ⟨hfaithful.settled, hfaithful.jobs, hfaithful.commands⟩
  | nowhere hnone => exact hfaithful
  | settled herrand =>
      refine ⟨fun call result hin => ?_, hfaithful.jobs, hfaithful.commands⟩
      rcases List.mem_append.mp hin with hold | hnew
      · exact hfaithful.settled call result hold
      · cases List.mem_singleton.mp hnew
        exact kept_of_errand? herrand
  | told herrand =>
      refine ⟨hfaithful.settled, fun job hin => ?_, fun job hin => ?_⟩
      · rcases List.mem_append.mp hin with hold | hnew
        · exact hfaithful.jobs job hold
        · cases List.mem_singleton.mp hnew
          exact kept_of_errand? herrand
      · rcases List.mem_append.mp hin with hold | hnew
        · exact hfaithful.commands job hold
        · cases List.mem_singleton.mp hnew
          rintro number rfl
          exact close_of_errand? herrand

theorem faithful_run (events : List Event) : (start.run site events).Faithful := by
  induction events using List.reverseRecOn with
  | nil =>
      exact ⟨fun _ _ hin => (nomatch hin), fun _ hin => (nomatch hin), fun _ hin => (nomatch hin)⟩
  | append_singleton past event ih =>
      rw [run_concat]
      exact ih.step event

/-- A request that fails does so through the driver, or because its line could not be written. -/
theorem failure_of_request {id : Nat} {f : Failure}
    (hresult : t.requests.result? id = some (.error f)) :
    (∃ cause, f = .driver cause) ∨ ∃ reason, f = .system reason ∧ Refused t.course id reason := by
  have hstage := Requests.result?_eq_some_iff.1 hresult
  have hending := (Requests.accounted_run t.course).stages id _ hstage
  generalize hanswer : Except.error f = answer at hending
  cases hending with
  | @replied text reply hline hread hown =>
      cases hok : reply.ok <;> simp [Reply.outcome, hok] at hanswer
      exact .inl ⟨_, hanswer⟩
  | gone hend =>
      cases hanswer
      exact .inl ⟨_, rfl⟩
  | lost hend =>
      cases hanswer
      exact .inl ⟨_, rfl⟩
  | shutDown hshut =>
      cases hanswer
      exact .inl ⟨_, rfl⟩
  | unwritten hrefused =>
      cases hanswer
      exact .inr ⟨_, rfl, Requests.finished_system_iff.1 hstage⟩

theorem not_promised_system (hother : call.isNavigation = false) (reason : String) :
    ¬ Promised call (.error (.system reason)) := by
  intro hpromised
  cases call with
  | navigate page path => cases hother
  | _ => exact nomatch hpromised _ rfl

/-- A call that makes a request ends as it is meant to, unless the line of the request could not be
written; and then it does so only if it goes to a path. -/
theorem Faithful.result? (hfaithful : t.Faithful) {job : Job} (hjob : job ∈ t.jobs)
    {result : Attempt Fruit} (hresult : t.result? job = some result) :
    Promised job.call result ∨
      job.call.isNavigation = false ∧ ∃ reason, result = .error (.system reason) ∧
        Refused t.course job.id reason := by
  rcases Option.map_eq_some_iff.mp hresult with ⟨answer, hanswer, rfl⟩
  rcases hfaithful.jobs job hjob with ⟨hreply, hfailed⟩
  cases answer with
  | ok reply => exact .inl (hreply reply)
  | error f =>
      have hfailed := hfailed f
      -- To go to a path makes a failure of its own of any failure; other calls pass it on.
      cases hnavigation : job.call.isNavigation with
      | true => exact .inl (by simpa [hnavigation] using hfailed)
      | false =>
          have hsame : job.conclude (.error f) = .error f := by simpa [hnavigation] using hfailed
          rw [hsame]
          rcases failure_of_request hanswer with ⟨cause, rfl⟩ | ⟨reason, rfl, hrefused⟩
          · refine .inl ?_
            cases hcall : job.call with
            | navigate page path => simp [hcall, Call.isNavigation] at hnavigation
            | _ => exact fun f hf => ⟨cause, (Except.error.inj hf).symm⟩
          · exact .inr ⟨rfl, reason, rfl, hrefused⟩

/-- If the line of a request could not be written, a call that goes to no path fails with that. -/
theorem Faithful.result?_of_refused (hfaithful : t.Faithful) {job : Job} (hjob : job ∈ t.jobs)
    (hother : job.call.isNavigation = false) {reason : String}
    (hrefused : Refused t.course job.id reason) :
    t.result? job = some (.error (.system reason)) := by
  have hanswer : t.requests.result? job.id = some (.error (.system reason)) :=
    Requests.result?_eq_some_iff.2 (Requests.finished_system_iff.2 hrefused)
  have hfailed := (hfaithful.jobs job hjob).2 (.system reason)
  rw [Traffic.result?, hanswer]
  simpa [hother] using hfailed

/-! ## Pages are closed once -/

def closes (page : Nat) (job : Job) : Bool :=
  match job.call with
  | .close other => other == page
  | _ => false

/-- Only a call to close a page has a page closed. -/
theorem closed_of_errand? {errand : Errand Fruit} {closed : List Nat}
    (herrand : t.errand? site call = some (errand, closed)) :
    (∀ page, call ≠ .close page) ∧ closed = t.closed ∨
      ∃ page p, call = .close page ∧ t.page? page = some p ∧
        errand = (p.closing.1.map fun _ => .done) ∧ closed = t.closed.insert page := by
  cases call with
  | openPage viewport =>
      cases herrand
      exact .inl ⟨by simp, rfl⟩
  | navigate page path =>
      rcases Option.map_eq_some_iff.mp herrand with ⟨p, -, hsame⟩
      cases hsame
      exact .inl ⟨by simp, rfl⟩
  | measure page spec =>
      rcases Option.map_eq_some_iff.mp herrand with ⟨p, -, hsame⟩
      cases hsame
      exact .inl ⟨by simp, rfl⟩
  | close page =>
      rcases Option.map_eq_some_iff.mp herrand with ⟨p, hpage, hsame⟩
      have hclosed : p.closing.2.closed = true := by
        unfold Page.closing
        split
        case isTrue halready => exact halready
        case isFalse => rfl
      simp only [hclosed, if_true, Prod.mk.injEq] at hsame
      exact .inr ⟨page, p, rfl, hpage, hsame.1.symm, hsame.2.symm⟩

theorem closed_of_page? {page : Nat} {p : Page} (hpage : t.page? page = some p)
    (hclosed : page ∈ t.closed) : p.closed = true := by
  rcases Option.map_eq_some_iff.mp hpage with ⟨q, -, rfl⟩
  simp [hclosed]

/-- For each page there is at most one job to close it, and none before somebody asks for it. -/
def ClosedOnce (t : Traffic) : Prop :=
  ∀ page, t.jobs.countP (closes page) ≤ if page ∈ t.closed then 1 else 0

theorem ClosedOnce.step (honce : t.ClosedOnce) (event : Event) : (t.step site event).ClosedOnce := by
  have hturn := turn_step site t event
  generalize t.step site event = next at hturn
  -- Asking to close a page makes no job of it.
  have hmore (closed : List Nat) (hsub : t.closed ⊆ closed) (page : Nat) :
      t.jobs.countP (closes page) ≤ if page ∈ closed then 1 else 0 := by
    refine Nat.le_trans (honce page) ?_
    by_cases hold : page ∈ t.closed
    · simp [hold, hsub hold]
    · simp [hold]
  cases hturn with
  | happens => exact honce
  | nowhere hnone => exact honce
  | settled herrand =>
      intro page
      rcases closed_of_errand? herrand with ⟨-, rfl⟩ | ⟨other, p, rfl, -, -, rfl⟩
      · exact honce page
      · exact hmore _ (fun _ hin => List.mem_insert_of_mem hin) page
  | @told call command conclude closed herrand =>
      intro page
      rcases closed_of_errand? herrand with ⟨hother, rfl⟩ | ⟨other, p, rfl, hpage, hclosing, rfl⟩
      · have hnot : closes page ⟨t.requests.stages.length, call, command, conclude⟩ = false := by
          cases call with
          | close other => exact absurd rfl (hother other)
          | _ => rfl
        simpa [List.countP_append, hnot] using honce page
      · by_cases hsame : other = page
        · subst hsame
          -- A page that is closed already is closed without a request.
          have hopen : other ∉ t.closed := by
            intro hin
            simp [Page.closing, closed_of_page? hpage hin, Errand.map] at hclosing
          have hnone := honce other
          simp only [hopen, if_false, Nat.le_zero] at hnone
          simp [List.countP_append, hnone, closes]
        · have hnot : closes page ⟨t.requests.stages.length, .close other, command, conclude⟩ =
              false := by simpa [closes] using hsame
          have hcount := hmore (t.closed.insert other)
            (fun _ hin => List.mem_insert_of_mem hin) page
          simpa [List.countP_append, hnot] using hcount

theorem closedOnce_run (events : List Event) : (start.run site events).ClosedOnce := by
  induction events using List.reverseRecOn with
  | nil => exact fun page => Nat.zero_le _
  | append_singleton past event ih =>
      rw [run_concat]
      exact ih.step event

/-! ## What stays as it is -/

/-- What has happened, who has called and what is closed, stays so. -/
structure Extends (t u : Traffic) : Prop where
  course : t.course <+: u.course
  jobs : t.jobs <+: u.jobs
  closed : t.closed ⊆ u.closed

theorem Extends.trans {t u v : Traffic} (hfirst : Extends t u) (hnext : Extends u v) :
    Extends t v :=
  ⟨hfirst.course.trans hnext.course, hfirst.jobs.trans hnext.jobs,
    List.Subset.trans hfirst.closed hnext.closed⟩

theorem extends_step (site : String) (t : Traffic) (event : Event) :
    Extends t (t.step site event) := by
  have hturn := turn_step site t event
  generalize t.step site event = next at hturn
  have hclosed {call : Call} {errand : Errand Fruit} {closed : List Nat}
      (herrand : t.errand? site call = some (errand, closed)) : t.closed ⊆ closed := by
    rcases closed_of_errand? herrand with ⟨-, rfl⟩ | ⟨other, p, rfl, -, -, rfl⟩
    · exact List.Subset.refl _
    · exact fun _ hin => List.mem_insert_of_mem hin
  cases hturn with
  | happens => exact ⟨List.prefix_append _ _, List.prefix_rfl, List.Subset.refl _⟩
  | nowhere hnone => exact ⟨List.prefix_rfl, List.prefix_rfl, List.Subset.refl _⟩
  | settled herrand => exact ⟨List.prefix_rfl, List.prefix_rfl, hclosed herrand⟩
  | told herrand => exact ⟨List.prefix_append _ _, List.prefix_append _ _, hclosed herrand⟩

theorem extends_run (site : String) (t : Traffic) (events : List Event) :
    Extends t (t.run site events) := by
  induction events using List.reverseRecOn with
  | nil => exact ⟨List.prefix_rfl, List.prefix_rfl, List.Subset.refl _⟩
  | append_singleton past event ih =>
      rw [run_concat]
      exact ih.trans (extends_step site _ event)

theorem Extends.result? {t u : Traffic} (hextends : Extends t u) {job : Job}
    {result : Attempt Fruit} (hresult : t.result? job = some result) :
    u.result? job = some result := by
  rcases Option.map_eq_some_iff.mp hresult with ⟨answer, hanswer, rfl⟩
  rcases hextends.course with ⟨later, hcourse⟩
  have hlater : u.requests.result? job.id = some answer := by
    rw [requests, ← hcourse, Requests.run_append]
    exact Requests.result?_eq_some_iff.2
      (Requests.finished_run (Requests.result?_eq_some_iff.1 hanswer) later)
  rw [Traffic.result?, hlater]
  rfl

theorem opened?_eq_some_iff {page : Nat} {p : Page} :
    t.opened? page = some p ↔
      ∃ job, t.jobs.find? (·.id == page) = some job ∧ t.result? job = some (.ok (.opened p)) := by
  unfold opened?
  rw [← Option.bind_eq_some_iff]
  split
  · rename_i q hopened
    simp [hopened]
  · rename_i hother
    simpa using fun hopened => hother p hopened

theorem Extends.opened? {t u : Traffic} (hextends : Extends t u) {page : Nat} {p : Page}
    (hpage : t.opened? page = some p) : u.opened? page = some p := by
  rcases opened?_eq_some_iff.1 hpage with ⟨job, hjob, hresult⟩
  rcases hextends.jobs with ⟨more, hjobs⟩
  refine opened?_eq_some_iff.2 ⟨job, ?_, hextends.result? hresult⟩
  rw [← hjobs, List.find?_append, hjob]
  rfl

/-! ## Calls that a session carries out -/

theorem course_run_happens (site : String) (t : Traffic) (events : List Requests.Event) :
    (t.run site (events.map .happens)).course = t.course ++ events ∧
      (t.run site (events.map .happens)).jobs = t.jobs := by
  induction events generalizing t with
  | nil => simp
  | cons event events ih =>
      rcases ih (t.step site (.happens event)) with ⟨hcourse, hjobs⟩
      exact ⟨hcourse.trans (List.append_assoc _ _ _), hjobs⟩

/-- A call that a session carries out comes to an end that it can come to.  So whatever the driver
does, the session ends its calls as they are meant to end, unless a line is refused. -/
theorem exists_ends_carryOut {σ : Type} (peer : Peer σ) (pipe : Pipe σ) {s : Session σ}
    (hsame : s.requests = t.requests) {errand : Errand Fruit} {closed : List Nat}
    (herrand : t.errand? site call = some (errand, closed)) :
    ∃ events : List Requests.Event,
      ((t.step site (.calls call)).run site (events.map .happens)).Ends call
        (errand.carryOut peer s pipe).1 := by
  cases errand with
  | settled result =>
      refine ⟨[], .atOnce ?_⟩
      simp [step, herrand, Errand.carryOut]
  | told command conclude =>
      rcases exists_result_ask peer command s pipe with ⟨events, hresult⟩
      let job : Job := ⟨t.requests.stages.length, call, command, conclude⟩
      have hstep : t.step site (.calls call) =
          { t with course := t.course ++ [.draw], jobs := t.jobs ++ [job], closed := closed } := by
        simp [step, herrand, job]
      rcases course_run_happens site (t.step site (.calls call)) events with ⟨hcourse, hjobs⟩
      refine ⟨events, ?_⟩
      generalize (t.step site (.calls call)).run site (events.map .happens) = u at hcourse hjobs ⊢
      have hrequests : u.requests = (t.requests.step .draw).run events := by
        rw [requests, hcourse, hstep, Requests.run_append, Requests.run_append]
        rfl
      have hanswer : u.requests.result? job.id = some (s.ask peer command pipe).1 := by
        rw [hsame] at hresult
        rw [hrequests]
        exact hresult
      have hin : job ∈ u.jobs := by simp [hjobs, hstep]
      have hend : u.result? job = some ((Errand.told command conclude).carryOut peer s pipe).1 := by
        rw [Traffic.result?, hanswer]
        rfl
      exact .withRequest hin hend

/-! ## The laws of calls -/

theorem mem_closed_step {page : Nat} {p : Page} (hpage : t.page? page = some p) :
    page ∈ (t.step site (.calls (.close page))).closed := by
  have herrand : ∃ errand closed, t.errand? site (.close page) = some (errand, closed) :=
    ⟨_, _, by rw [errand?, hpage]; rfl⟩
  rcases herrand with ⟨errand, closed, herrand⟩
  have hclosed : page ∈ closed := by
    rcases closed_of_errand? herrand with ⟨hother, -⟩ | ⟨other, q, hsame, -, -, rfl⟩
    · exact absurd rfl (hother page)
    · cases hsame
      exact List.mem_insert_self
  cases errand with
  | settled result => simpa [step, herrand] using hclosed
  | told command conclude => simpa [step, herrand] using hclosed

/-- A page that somebody has asked to close is closed again without a request. -/
theorem step_of_closed {page : Nat} {p : Page} (hpage : t.opened? page = some p)
    (hclosed : page ∈ t.closed) :
    t.step site (.calls (.close page)) =
      { t with settled := t.settled ++ [(.close page, .ok .done)] } := by
  have hmarked : t.page? page = some { p with closed := true } := by
    simp [page?, hpage, hclosed]
  simp [step, errand?, hmarked, Page.closing, Errand.map, Except.map, hclosed]

/-- Calls come in any order, and whatever the driver does and whenever it ends or does not take a
line: a call ends as it is meant to, unless the line of its request could not be written and it goes
to no path. -/
theorem calls_end_as_meant_iff (site : String) (events : List Event) :
    let t := start.run site events
    -- Every call ends as it is meant to if no line was refused but of those that go to paths, and
    -- only then; what does not is a failure of the system.
    ((∀ call result, t.Ends call result → Promised call result) ↔
      ∀ job ∈ t.jobs, job.call.isNavigation = false → ∀ reason, ¬ Refused t.course job.id reason) ∧
    (∀ call result, t.Ends call result → Promised call result ∨
      call.isNavigation = false ∧ ∃ reason, result = .error (.system reason)) ∧
    -- What does not begin with a slash is no path, and nothing is written about it.
    (∀ page path p, t.page? page = some p → path.toList.head? ≠ some '/' →
      t.step site (.calls (.navigate page path)) =
        { t with settled := t.settled ++
          [(.navigate page path, .error (.navigation path "path must start with '/'"))] }) ∧
    -- A page is closed with one command at most, and to close it again goes well without any.
    (∀ page, t.jobs.countP (closes page) ≤ 1) ∧
    (∀ job ∈ t.jobs, ∀ number, job.command = .close number → ∃ page, closes page job = true) ∧
    ∀ past page p rest, events = past ++ .calls (.close page) :: rest →
      (start.run site past).page? page = some p →
      t.step site (.calls (.close page)) =
        { t with settled := t.settled ++ [(.close page, .ok .done)] } := by
  intro t
  have hfaithful : t.Faithful := faithful_run events
  refine ⟨⟨?_, ?_⟩, ?_, ?_, ?_, ?_, ?_⟩
  · intro hall job hjob hother reason hrefused
    have hend := hfaithful.result?_of_refused hjob hother hrefused
    exact not_promised_system hother reason (hall _ _ (.withRequest hjob hend))
  · intro hnone call result hends
    cases hends with
    | atOnce hsettled => exact hfaithful.settled _ _ hsettled
    | withRequest hjob hresult =>
        rcases hfaithful.result? hjob hresult with hpromised | ⟨hother, reason, -, hrefused⟩
        · exact hpromised
        · exact absurd hrefused (hnone _ hjob hother reason)
  · intro call result hends
    cases hends with
    | atOnce hsettled => exact .inl (hfaithful.settled _ _ hsettled)
    | withRequest hjob hresult =>
        rcases hfaithful.result? hjob hresult with hpromised | ⟨hother, reason, hsame, -⟩
        · exact .inl hpromised
        · exact .inr ⟨hother, reason, hsame⟩
  · intro page path p hpage hpath
    simp [step, errand?, hpage, Page.navigating, hpath, Errand.map, Except.map]
  · intro page
    refine Nat.le_trans (closedOnce_run events page) ?_
    split <;> simp
  · intro job hjob number hcommand
    rcases hfaithful.commands job hjob number hcommand with ⟨page, hcall⟩
    exact ⟨page, by simp [closes, hcall]⟩
  · rintro past page p rest rfl hpage
    rcases Option.map_eq_some_iff.mp hpage with ⟨q, hopened, -⟩
    -- Once somebody has asked to close it, the page is closed from then on.
    have hrun : t = ((start.run site past).step site (.calls (.close page))).run site rest :=
      run_append site start past _
    have hlater : Extends ((start.run site past).step site (.calls (.close page))) t :=
      hrun ▸ extends_run site _ rest
    exact step_of_closed (((extends_step site _ _).trans hlater).opened? hopened)
      (hlater.closed (mem_closed_step hpage))

/-- A page is to be opened, and the driver has ended before the command is written to it. -/
def broken : List Event :=
  [.calls (.openPage ⟨"phone", 375, 667⟩), .happens (.register 0),
    .happens (.written 0 (some "Broken pipe (os error 32)"))]

theorem broken_pipe_is_not_meant :
    (start.run "http://127.0.0.1:4173" broken).Ends (.openPage ⟨"phone", 375, 667⟩)
        (.error (.system "Broken pipe (os error 32)")) ∧
      ¬ Promised (.openPage ⟨"phone", 375, 667⟩)
        (.error (.system "Broken pipe (os error 32)")) := by
  -- The only job is to open the page.
  have hends := Ends.withRequest (t := start.run "http://127.0.0.1:4173" broken)
    List.mem_cons_self rfl
  exact ⟨hends, not_promised_system rfl _⟩

end Traffic
end Session
end LayoutAudit
