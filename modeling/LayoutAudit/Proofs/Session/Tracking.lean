import LayoutAudit.Session.Requests

/-!
# Proofs.Session.Tracking — no request is lost sight of

Events happen to requests one at a time.  What an event can do to a request is said here once, as a
change of what the others see of it: its stage, and whether it is in the table.

* `Requests.Change`, `Requests.change_step` — everything that an event can do to a request;
* `Requests.view_step`, `Requests.run_of_step` — what one event keeps, and any number of them;
* `Requests.Tracked` — a request waits in the table exactly as long as nothing has come for it;
* `Requests.tracked_run` — that is so after every sequence of events.
-/

namespace LayoutAudit
namespace Session
namespace Requests

variable {s : Requests} {id other : Nat}

/-- What has come for a request whose line is being written, or is written. -/
def Stage.mail? : Stage → Option Mail
  | writing mail => some mail
  | waiting mail => some mail
  | _ => none

def mail? (s : Requests) (id : Nat) : Option Mail := s.stages[id]?.bind Stage.mail?

theorem mail?_eq_some_iff {mail : Mail} :
    s.mail? id = some mail ↔
      s.stages[id]? = some (.writing mail) ∨ s.stages[id]? = some (.waiting mail) := by
  rcases hstage : s.stages[id]? with _ | _ | _ | _ | _ <;> simp [mail?, hstage, Stage.mail?]

/-! ## Operations on stages and on the table -/

@[simp] theorem isWaiting_put (stage : Stage) :
    (s.put id stage).isWaiting other = s.isWaiting other := rfl

theorem isWaiting_release :
    (s.release id).isWaiting other = (s.isWaiting other && other != id) := by
  cases htable : s.table with
  | none => simp [isWaiting, release, htable]
  | some ids =>
      by_cases hsame : other = id
      · simp [isWaiting, release, htable, hsame]
      · simp [isWaiting, release, htable, hsame]

theorem isWaiting_of_table_none (hclosed : s.table = none) : s.isWaiting id = false := by
  simp [isWaiting, hclosed]

theorem getElem?_put_self {stage old : Stage} (hstage : s.stages[id]? = some old) :
    (s.put id stage).stages[id]? = some stage := by
  have hbound := (List.getElem?_eq_some_iff.mp hstage).1
  simp [put, hbound]

theorem getElem?_put_ne {stage : Stage} (hother : other ≠ id) :
    (s.put id stage).stages[other]? = s.stages[other]? :=
  List.getElem?_set_ne (Ne.symm hother)

/-! ## What an event can do to a request -/

/-- What the others see of a request: its stage, and whether it is in the table. -/
def view (s : Requests) (id : Nat) : Option Stage × Bool := (s.stages[id]?, s.isWaiting id)

/-- Why the line of a request is not written, as its failure says. -/
inductive Unwritten (s : Requests) : Option String → Failure → Prop
  | shutDown {refusal : Option String} (hshut : s.inputOpen = false) :
      Unwritten s refusal (.driver .shutDown)
  | refused {reason : String} (hopen : s.inputOpen = true) :
      Unwritten s (some reason) (.system reason)

inductive Change (s : Requests) (id : Nat) :
    Event → Option Stage × Bool → Option Stage × Bool → Prop where
  | kept {event : Event} {seen : Option Stage × Bool} : Change s id event seen seen
  | drawn {waits : Bool} (hnext : id = s.stages.length) :
      Change s id .draw (none, waits) (some .drawn, waits)
  | entered {waits : Bool} {ids : List Nat} (htable : s.table = some ids) :
      Change s id (.register id) (some .drawn, waits) (some (.writing .expected), true)
  | refused {waits : Bool} (htable : s.table = none) :
      Change s id (.register id) (some .drawn, waits)
        (some (.finished (.error (.driver .gone))), waits)
  | sent {mail : Mail} {waits : Bool} (hopen : s.inputOpen = true) :
      Change s id (.written id none) (some (.writing mail), waits) (some (.waiting mail), waits)
  | unsent {mail : Mail} {waits : Bool} {refusal : Option String} {f : Failure}
      (hwhy : Unwritten s refusal f) :
      Change s id (.written id refusal) (some (.writing mail), waits)
        (some (.finished (.error f)), false)
  | replied {stage : Option Stage} {text : String} {reply : Reply}
      (hread : Reply.read text = .ok reply) (hown : reply.id = id) :
      Change s id (.line text) (stage, true)
        (stage.map (Stage.receive (.delivered reply)), false)
  | dropped {stage : Option Stage} :
      Change s id .endOfOutput (stage, true) (stage.map (Stage.receive .dropped), false)
  | collected {reply : Reply} {waits : Bool} :
      Change s id (.collect id) (some (.waiting (.delivered reply)), waits)
        (some (.finished reply.outcome), waits)
  | lost {waits : Bool} :
      Change s id (.collect id) (some (.waiting .dropped), waits)
        (some (.finished (.error (.driver .lost))), waits)

theorem Change.of_eq {event : Event} {seen after : Option Stage × Bool} (hsame : after = seen) :
    Change s id event seen after := hsame ▸ .kept

theorem change_draw (s : Requests) (id : Nat) :
    Change s id .draw (s.view id) ((s.step .draw).view id) := by
  -- A new request goes behind all others, which stay where they are.
  by_cases hnext : id = s.stages.length
  · have hbefore : s.view id = (none, s.isWaiting id) := by simp [view, hnext]
    have hafter : (s.step .draw).view id = (some .drawn, s.isWaiting id) := by
      simp [view, step, hnext, isWaiting]
    rw [hbefore, hafter]
    exact .drawn hnext
  · have hsame : (s.stages ++ [Stage.drawn])[id]? = s.stages[id]? := by
      rcases Nat.lt_or_gt_of_ne hnext with hold | hnew
      · exact List.getElem?_append_left hold
      · have hbeyond : s.stages.length + 1 ≤ id := hnew
        rw [List.getElem?_eq_none (by simpa using hbeyond), List.getElem?_eq_none (by omega)]
    exact .of_eq (Prod.ext hsame rfl)

theorem change_register (s : Requests) (target id : Nat) :
    Change s id (.register target) (s.view id) ((s.register target).view id) := by
  rcases hstage : s.stages[target]? with _ | _ | _ | _ | _
  case some.drawn =>
    cases htable : s.table with
    | some ids =>
        by_cases hself : id = target
        · subst hself
          have hafter : (s.register id).view id = (some (.writing .expected), true) := by
            refine Prod.ext ?_ ?_
            · simpa [register, hstage, htable, view] using getElem?_put_self hstage
            · simp [register, hstage, htable, view, isWaiting]
          rw [hafter, view, hstage]
          exact .entered htable
        · refine .of_eq (Prod.ext ?_ ?_)
          · simpa [register, hstage, htable, view] using getElem?_put_ne hself
          · simp [register, hstage, htable, view, isWaiting, hself]
    | none =>
        by_cases hself : id = target
        · subst hself
          have hafter : (s.register id).view id =
              (some (.finished (.error (.driver .gone))), s.isWaiting id) := by
            refine Prod.ext ?_ ?_
            · simpa [register, hstage, htable, view] using getElem?_put_self hstage
            · simp [register, hstage, htable, view]
          rw [hafter, view, hstage]
          exact .refused htable
        · refine .of_eq (Prod.ext ?_ ?_)
          · simpa [register, hstage, htable, view] using getElem?_put_ne hself
          · simp [register, hstage, htable, view]
  all_goals exact .of_eq (by simp [register, hstage])

/-- A request that gives up leaves the table. -/
theorem view_giveUp_self {mail : Mail} (hstage : s.stages[id]? = some (.writing mail))
    (f : Failure) : (s.giveUp id f).view id = (some (.finished (.error f)), false) := by
  refine Prod.ext ?_ ?_
  · exact getElem?_put_self (s := s.release id) hstage
  · simp [giveUp, view, isWaiting_release]

theorem view_giveUp_ne (hother : other ≠ id) (f : Failure) :
    (s.giveUp id f).view other = s.view other := by
  refine Prod.ext ?_ ?_
  · exact getElem?_put_ne (s := s.release id) hother
  · simp [giveUp, view, isWaiting_release, hother]

/-- A request whose line is not written gives up. -/
theorem written_of_unwritten {mail : Mail} {refusal : Option String} {f : Failure}
    (hstage : s.stages[id]? = some (.writing mail)) (hwhy : Unwritten s refusal f) :
    s.written id refusal = s.giveUp id f := by
  cases hwhy with
  | shutDown hshut => simp [written, hstage, hshut]
  | refused hopen => simp [written, hstage, hopen]

theorem written_cases (s : Requests) (refusal : Option String) :
    (s.inputOpen = true ∧ refusal = none) ∨ ∃ f, Unwritten s refusal f := by
  cases hopen : s.inputOpen with
  | false => exact .inr ⟨_, .shutDown hopen⟩
  | true =>
      cases refusal with
      | none => exact .inl ⟨rfl, rfl⟩
      | some reason => exact .inr ⟨_, .refused hopen⟩

theorem change_written (s : Requests) (target : Nat) (refusal : Option String) (id : Nat) :
    Change s id (.written target refusal) (s.view id) ((s.written target refusal).view id) := by
  rcases hstage : s.stages[target]? with _ | _ | mail | _ | _
  case some.writing =>
    rcases written_cases s refusal with ⟨hopen, rfl⟩ | ⟨f, hwhy⟩
    · have hput : s.written target none = s.put target (.waiting mail) := by
        simp [written, hstage, hopen]
      rw [hput]
      by_cases hself : id = target
      · subst hself
        have hafter : (s.put id (.waiting mail)).view id =
            (some (.waiting mail), s.isWaiting id) := Prod.ext (getElem?_put_self hstage) rfl
        rw [hafter, view, hstage]
        exact .sent hopen
      · exact .of_eq (Prod.ext (getElem?_put_ne hself) rfl)
    · rw [written_of_unwritten hstage hwhy]
      by_cases hself : id = target
      · subst hself
        rw [view_giveUp_self hstage, view, hstage]
        exact .unsent hwhy
      · exact .of_eq (view_giveUp_ne hself f)
  all_goals exact .of_eq (by simp [written, hstage])

theorem change_line (s : Requests) (text : String) (id : Nat) :
    Change s id (.line text) (s.view id) ((s.readLine text).view id) := by
  cases hread : Reply.read text with
  | error fault => exact .of_eq (by simp [readLine, hread])
  | ok reply =>
      by_cases hwaits : s.isWaiting reply.id = true
      · have hline : s.readLine text =
            { s.release reply.id with
              stages := s.stages.modify reply.id (Stage.receive (.delivered reply)) } := by
          simp [readLine, hread, deliver, hwaits]
        have htable : (s.readLine text).isWaiting id = (s.isWaiting id && id != reply.id) := by
          rw [hline]
          exact isWaiting_release
        by_cases hself : id = reply.id
        · subst hself
          have hafter : (s.readLine text).view reply.id =
              ((s.stages[reply.id]?).map (Stage.receive (.delivered reply)), false) := by
            refine Prod.ext ?_ ?_
            · simp [view, hline]
            · simp [view, htable]
          rw [hafter, view, hwaits]
          exact .replied hread rfl
        · refine .of_eq (Prod.ext ?_ ?_)
          · simp [view, hline, Ne.symm hself]
          · simp [view, htable, hself]
      · exact .of_eq (by simp [readLine, hread, deliver, hwaits])

theorem change_endOfOutput (s : Requests) (id : Nat) :
    Change s id .endOfOutput (s.view id) (s.closeTable.view id) := by
  have hstage : s.closeTable.stages[id]? = (s.stages[id]?).map fun stage =>
      if s.isWaiting id then stage.receive .dropped else stage := by
    simp [closeTable]
  have htable : s.closeTable.isWaiting id = false := isWaiting_of_table_none rfl
  cases hwaits : s.isWaiting id with
  | true =>
      have hafter : s.closeTable.view id =
          ((s.stages[id]?).map (Stage.receive .dropped), false) := by
        simp [view, hstage, htable, hwaits]
      rw [hafter, view, hwaits]
      exact .dropped
  | false => exact .of_eq (by simp [view, hstage, htable, hwaits])

theorem change_collect (s : Requests) (target id : Nat) :
    Change s id (.collect target) (s.view id) ((s.collect target).view id) := by
  by_cases hself : id = target
  · subst hself
    rcases hstage : s.stages[id]? with _ | _ | _ | (_ | reply | _) | _
    case some.waiting.delivered =>
      have hafter : (s.collect id).view id = (some (.finished reply.outcome), s.isWaiting id) := by
        refine Prod.ext ?_ ?_
        · simpa [collect, hstage, view] using getElem?_put_self hstage
        · simp [collect, hstage, view]
      rw [hafter, view, hstage]
      exact .collected
    case some.waiting.dropped =>
      have hafter : (s.collect id).view id =
          (some (.finished (.error (.driver .lost))), s.isWaiting id) := by
        refine Prod.ext ?_ ?_
        · simpa [collect, hstage, view] using getElem?_put_self hstage
        · simp [collect, hstage, view]
      rw [hafter, view, hstage]
      exact .lost
    all_goals exact .of_eq (by simp [collect, hstage])
  · -- Whatever has come for the target, it is the only one that takes it.
    refine .of_eq ?_
    unfold collect
    split
    · exact Prod.ext (getElem?_put_ne hself) rfl
    · exact Prod.ext (getElem?_put_ne hself) rfl
    · rfl

/-- An event does nothing else to a request. -/
theorem change_step (s : Requests) (event : Event) (id : Nat) :
    Change s id event (s.view id) ((s.step event).view id) := by
  cases event with
  | draw => exact change_draw s id
  | register target => exact change_register s target id
  | written target refusal => exact change_written s target refusal id
  | line text => exact change_line s text id
  | endOfOutput => exact change_endOfOutput s id
  | closeInput => exact .kept
  | collect target => exact change_collect s target id

/-- What each of these changes keeps of a request is so after the event. -/
theorem view_step {P : Option Stage × Bool → Prop} (event : Event) (hbefore : P (s.view id))
    (heach : ∀ seen after, Change s id event seen after → P seen → P after) :
    P ((s.step event).view id) :=
  heach _ _ (change_step s event id) hbefore

/-- What every event keeps is so after all of them. -/
theorem run_of_step {P : Requests → Prop}
    (hstep : ∀ {t : Requests}, P t → ∀ event, P (t.step event)) (hstart : P s)
    (events : List Event) : P (s.run events) := by
  induction events generalizing s with
  | nil => exact hstart
  | cons event events ih => exact ih (hstep hstart event)

/-! ## The invariant -/

/-- A request is in the table exactly as long as nothing has come for it, and what comes for it is
its own reply. -/
structure Tracked (s : Requests) : Prop where
  waiting : ∀ id, s.isWaiting id = true ↔ s.mail? id = some .expected
  own : ∀ id reply, s.mail? id = some (.delivered reply) → reply.id = id

theorem tracked_start : Tracked start where
  waiting := by simp [start, isWaiting, mail?]
  own := by simp [start, mail?]

theorem Tracked.step (htracked : s.Tracked) (event : Event) : (s.step event).Tracked := by
  have heach (id : Nat) : ((s.step event).isWaiting id = true ↔
        (s.step event).mail? id = some .expected) ∧
      ∀ reply, (s.step event).mail? id = some (.delivered reply) → reply.id = id := by
    -- Both facts are about what is seen of the request.
    refine view_step (P := fun seen => (seen.2 = true ↔ seen.1.bind Stage.mail? = some .expected) ∧
      ∀ reply, seen.1.bind Stage.mail? = some (.delivered reply) → reply.id = id) event
      ⟨htracked.waiting id, htracked.own id⟩ ?_
    intro seen after hchange hseen
    cases hchange with
    | kept => exact hseen
    | @replied stage text reply hread hmine =>
        -- Only a request for which nothing has come is in the table.
        rcases stage with _ | _ | _ | _ | _ <;> simp_all [Stage.mail?, Stage.receive]
    | @dropped stage =>
        rcases stage with _ | _ | _ | _ | _ <;> simp_all [Stage.mail?, Stage.receive]
    | _ => simp_all [Stage.mail?]
  exact ⟨fun id => (heach id).1, fun id => (heach id).2⟩

theorem Tracked.run (htracked : s.Tracked) (events : List Event) : (s.run events).Tracked :=
  run_of_step Tracked.step htracked events

/-- Whatever has happened, every request is tracked. -/
theorem tracked_run (events : List Event) : (start.run events).Tracked :=
  tracked_start.run events

end Requests
end Session
end LayoutAudit
