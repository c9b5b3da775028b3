import LayoutAudit.Proofs.Json.Layout
import LayoutAudit.Proofs.Session.Tracking
import Mathlib.Data.List.Nodup

/-!
# Proofs.Session.Routing — replies find their requests

Requests of several workers, failing writes, the lines of the driver and the end of its output may
come in any order.

* `Requests.numbers` — the numbers that requests are given;
* `Requests.Ending` — how a request can end, in terms of what has happened;
* `Requests.accounted_run` — everything that is known of a request has happened before;
* `Requests.Settled`, `Requests.Unserved` — a request that gets nothing any more, and one that will
  never get its reply;
* `Requests.replies_find_their_requests` — the laws of the table of requests.
-/

namespace LayoutAudit
namespace Session
namespace Requests

open Json (Document Layout Readable Value depthLimit)

variable {s : Requests} {id : Nat} {past events : List Event} {event : Event}

@[simp] theorem run_nil (s : Requests) : s.run [] = s := rfl

@[simp] theorem run_cons (s : Requests) (event : Event) (events : List Event) :
    s.run (event :: events) = (s.step event).run events := rfl

/-! ## What most events leave as it is -/

/-- There are as many requests as before, and the table and the input are as open as before. -/
structure Keeps (s t : Requests) : Prop where
  count : t.stages.length = s.stages.length
  table : t.table = none ↔ s.table = none
  input : t.inputOpen = s.inputOpen

theorem Keeps.refl (s : Requests) : Keeps s s := ⟨rfl, Iff.rfl, rfl⟩

theorem keeps_put (s : Requests) (id : Nat) (stage : Stage) : Keeps s (s.put id stage) :=
  ⟨by simp [put], Iff.rfl, rfl⟩

theorem keeps_giveUp (s : Requests) (id : Nat) (f : Failure) : Keeps s (s.giveUp id f) :=
  ⟨by simp [giveUp, put, release], by simp [giveUp, put, release], rfl⟩

theorem keeps_register (s : Requests) (id : Nat) : Keeps s (s.register id) := by
  unfold register
  split
  case h_1 ids hstage htable => exact ⟨by simp [put], by simp [htable], rfl⟩
  case h_2 => exact keeps_put _ _ _
  case h_3 => exact .refl s

theorem keeps_written (s : Requests) (id : Nat) (refusal : Option String) :
    Keeps s (s.written id refusal) := by
  unfold written
  split
  case h_1 mail hstage =>
    split
    · cases refusal with
      | none => exact keeps_put _ _ _
      | some reason => exact keeps_giveUp _ _ _
    · exact keeps_giveUp _ _ _
  case h_2 => exact .refl s

theorem keeps_readLine (s : Requests) (text : String) : Keeps s (s.readLine text) := by
  unfold readLine
  cases Reply.read text with
  | ok reply =>
      by_cases hwaits : s.isWaiting reply.id = true
      · exact ⟨by simp [deliver, hwaits], by simp [deliver, hwaits, release],
          by simp [deliver, hwaits, release]⟩
      · simpa [deliver, hwaits] using Keeps.refl s
  | error fault => exact .refl s

theorem keeps_collect (s : Requests) (id : Nat) : Keeps s (s.collect id) := by
  unfold collect
  split
  · exact keeps_put _ _ _
  · exact keeps_put _ _ _
  · exact .refl s

/-- Only a new request, the end of the output and the closing of the input change more. -/
theorem keeps_step (s : Requests) (event : Event) :
    Keeps s (s.step event) ∨ event = .draw ∨ event = .endOfOutput ∨ event = .closeInput := by
  cases event with
  | draw => simp
  | endOfOutput => simp
  | closeInput => simp
  | register id => exact .inl (keeps_register s id)
  | written id refusal => exact .inl (keeps_written s id refusal)
  | line text => exact .inl (keeps_readLine s text)
  | collect id => exact .inl (keeps_collect s id)

theorem length_step_of_ne_draw (s : Requests) (hevent : event ≠ .draw) :
    (s.step event).stages.length = s.stages.length := by
  rcases keeps_step s event with hkeeps | rfl | rfl | rfl
  · exact hkeeps.count
  · exact absurd rfl hevent
  · simp [step, closeTable]
  · rfl

theorem table_step (s : Requests) (event : Event) :
    (s.step event).table = none ↔ s.table = none ∨ event = .endOfOutput := by
  by_cases hend : event = .endOfOutput
  · simp [hend, step, closeTable]
  · have htable : (s.step event).table = none ↔ s.table = none := by
      rcases keeps_step s event with hkeeps | rfl | rfl | rfl
      · exact hkeeps.table
      · exact Iff.rfl
      · exact absurd rfl hend
      · exact Iff.rfl
    rw [htable, or_iff_left hend]

theorem inputOpen_step (s : Requests) (event : Event) (hshut : (s.step event).inputOpen = false) :
    s.inputOpen = false ∨ event = .closeInput := by
  rcases keeps_step s event with hkeeps | rfl | rfl | rfl
  · exact .inl (hkeeps.input ▸ hshut)
  · exact .inl hshut
  · exact .inl hshut
  · exact .inr rfl

/-! ## Numbers -/

/-- The numbers that requests are given, in order. -/
def numbers (s : Requests) : List Event → List Nat
  | [] => []
  | .draw :: events => s.stages.length :: (s.step .draw).numbers events
  | event :: events => (s.step event).numbers events

/-- Numbers are given out one after the other. -/
theorem numbers_eq_range' (s : Requests) (events : List Event) :
    s.numbers events =
        List.range' s.stages.length ((s.run events).stages.length - s.stages.length) ∧
      s.stages.length ≤ (s.run events).stages.length := by
  induction events generalizing s with
  | nil => simp [numbers]
  | cons event events ih =>
      rcases ih (s.step event) with ⟨hrest, hlength⟩
      by_cases hdraw : event = .draw
      · subst hdraw
        have hone : (s.step .draw).stages.length = s.stages.length + 1 := by simp [step]
        rw [hone] at hrest hlength
        refine ⟨?_, by simp only [run_cons]; omega⟩
        have hcount : ((s.step .draw).run events).stages.length - s.stages.length =
            ((s.step .draw).run events).stages.length - (s.stages.length + 1) + 1 := by omega
        rw [numbers, hrest, run_cons, hcount, List.range'_succ]
      · have hsame := length_step_of_ne_draw s hdraw
        rw [hsame] at hrest hlength
        refine ⟨?_, hlength⟩
        have hnumbers : s.numbers (event :: events) = (s.step event).numbers events := by
          cases event <;> first | rfl | exact absurd rfl hdraw
        rw [hnumbers, hrest, run_cons]

theorem numbers_start (events : List Event) :
    start.numbers events = List.range (start.run events).stages.length := by
  have hnumbers := (numbers_eq_range' start events).1
  simpa [start, List.range_eq_range'] using hnumbers

/-- As words of 64 bits numbers are still different, as long as there are fewer than such words. -/
theorem nodup_words {count : Nat} (hfew : count < UInt64.size) :
    ((List.range count).map UInt64.ofNat).Nodup := by
  refine List.Nodup.map_on ?_ List.nodup_range
  intro m hm n hn hword
  have hm' : m < UInt64.size := Nat.lt_trans (List.mem_range.mp hm) hfew
  have hn' : n < UInt64.size := Nat.lt_trans (List.mem_range.mp hn) hfew
  have hvalue := congrArg UInt64.toNat hword
  rwa [UInt64.toNat_ofNat_of_lt' hm', UInt64.toNat_ofNat_of_lt' hn'] at hvalue

/-! ## Where everything comes from -/

/-- What has come for a request has come about in the course of events. -/
def Told (events : List Event) (id : Nat) : Mail → Prop
  | .expected => True
  | .delivered reply => reply.id = id ∧ ∃ text, .line text ∈ events ∧ Reply.read text = .ok reply
  | .dropped => .endOfOutput ∈ events

/-- How a request can end: with a reply that carries its number, or with a failure. -/
inductive Ending (events : List Event) (id : Nat) : Attempt Reply → Prop where
  | replied {text : String} {reply : Reply} (hline : .line text ∈ events)
      (hread : Reply.read text = .ok reply) (hown : reply.id = id) :
      Ending events id reply.outcome
  | gone (hend : .endOfOutput ∈ events) : Ending events id (.error (.driver .gone))
  | lost (hend : .endOfOutput ∈ events) : Ending events id (.error (.driver .lost))
  | shutDown (hshut : .closeInput ∈ events) : Ending events id (.error (.driver .shutDown))
  | unwritten {reason : String} (hrefused : .written id (some reason) ∈ events) :
      Ending events id (.error (.system reason))

/-- A stage that a request can have come to in the course of events. -/
def Explained (events : List Event) (id : Nat) : Stage → Prop
  | .drawn => True
  | .writing mail => Told events id mail
  | .waiting mail => Told events id mail
  | .finished result => Ending events id result

theorem Told.mono {mail : Mail} (htold : Told past id mail) (hmore : past ⊆ events) :
    Told events id mail := by
  cases mail with
  | expected => trivial
  | delivered reply =>
      rcases htold with ⟨hown, text, hline, hread⟩
      exact ⟨hown, text, hmore hline, hread⟩
  | dropped => exact hmore htold

theorem Ending.mono {result : Attempt Reply} (hending : Ending past id result)
    (hmore : past ⊆ events) : Ending events id result := by
  cases hending with
  | replied hline hread hown => exact .replied (hmore hline) hread hown
  | gone hend => exact .gone (hmore hend)
  | lost hend => exact .lost (hmore hend)
  | shutDown hshut => exact .shutDown (hmore hshut)
  | unwritten hrefused => exact .unwritten (hmore hrefused)

theorem Explained.mono {stage : Stage} (hstage : Explained past id stage)
    (hmore : past ⊆ events) : Explained events id stage := by
  cases stage with
  | drawn => trivial
  | writing mail => exact Told.mono hstage hmore
  | waiting mail => exact Told.mono hstage hmore
  | finished result => exact Ending.mono hstage hmore

theorem Explained.receive {stage : Stage} {mail : Mail} (hstage : Explained events id stage)
    (hmail : Told events id mail) : Explained events id (stage.receive mail) := by
  rcases stage with _ | (_ | _ | _) | (_ | _ | _) | _
  case writing.expected => exact hmail
  case waiting.expected => exact hmail
  all_goals exact hstage

/-- Everything that is known has happened. -/
structure Accounted (past : List Event) (s : Requests) : Prop where
  stages : ∀ id stage, s.stages[id]? = some stage → Explained past id stage
  closed : s.table = none → .endOfOutput ∈ past
  shut : s.inputOpen = false → .closeInput ∈ past

theorem accounted_start : Accounted [] start where
  stages := by simp [start]
  closed := by simp [start]
  shut := by simp [start]

theorem Accounted.step (hpast : Accounted past s) (event : Event) :
    Accounted (past ++ [event]) (s.step event) where
  stages := by
    intro id
    have hmore : past ⊆ past ++ [event] := List.subset_append_left past [event]
    have hnow : event ∈ past ++ [event] := List.mem_append_right past List.mem_cons_self
    refine view_step (P := fun seen => ∀ stage, seen.1 = some stage →
      Explained (past ++ [event]) id stage) event
      (fun stage hstage => (hpast.stages id stage hstage).mono hmore) ?_
    intro seen after hchange hold stage hnew
    cases hchange with
    | kept => exact hold stage hnew
    | drawn hnext =>
        cases hnew
        trivial
    | entered htable =>
        cases hnew
        trivial
    | refused htable =>
        cases hnew
        exact .gone (hmore (hpast.closed htable))
    | sent hopen =>
        cases hnew
        exact hold (.writing _) rfl
    | unsent hwhy =>
        cases hnew
        cases hwhy with
        | shutDown hshut => exact .shutDown (hmore (hpast.shut hshut))
        | refused hopen => exact .unwritten hnow
    | replied hread hown =>
        rcases Option.map_eq_some_iff.mp hnew with ⟨before, hstage, rfl⟩
        exact (hold before hstage).receive ⟨hown, _, hnow, hread⟩
    | dropped =>
        rcases Option.map_eq_some_iff.mp hnew with ⟨before, hstage, rfl⟩
        exact (hold before hstage).receive hnow
    | collected =>
        cases hnew
        rcases hold _ rfl with ⟨hown, text, hline, hread⟩
        exact .replied hline hread hown
    | lost =>
        cases hnew
        exact .lost (hold _ rfl)
  closed := by
    intro hclosed
    rcases (table_step s event).mp hclosed with hbefore | rfl
    · exact List.mem_append_left _ (hpast.closed hbefore)
    · simp
  shut := by
    intro hshut
    rcases inputOpen_step s event hshut with hbefore | rfl
    · exact List.mem_append_left _ (hpast.shut hbefore)
    · simp

theorem Accounted.run (hpast : Accounted past s) (events : List Event) :
    Accounted (past ++ events) (s.run events) := by
  induction events generalizing past s with
  | nil => simpa using hpast
  | cons event events ih =>
      have hrest := ih (hpast.step event)
      simpa using hrest

theorem accounted_run (events : List Event) : Accounted events (start.run events) := by
  simpa using accounted_start.run events

/-! ## Requests that are done with the table -/

/-- A request that has left the table, or was kept out of it. -/
def Settled (s : Requests) (id : Nat) : Prop :=
  s.isWaiting id = false ∧ ∃ stage, s.stages[id]? = some stage ∧ stage ≠ .drawn

theorem Settled.step (hsettled : s.Settled id) (event : Event) : (s.step event).Settled id := by
  refine view_step (P := fun seen => seen.2 = false ∧
    ∃ stage, seen.1 = some stage ∧ stage ≠ .drawn) event hsettled ?_
  intro seen after hchange hseen
  rcases hseen with ⟨hout, stage, hstage, hbegun⟩
  cases hchange with
  | kept => exact ⟨hout, stage, hstage, hbegun⟩
  | drawn hnext => cases hstage
  | entered htable =>
      -- Entering the table takes a request that has only drawn its number.
      cases hstage
      exact absurd rfl hbegun
  | refused htable => exact ⟨hout, _, rfl, by simp⟩
  | sent hopen => exact ⟨hout, _, rfl, by simp⟩
  | unsent hwhy => exact ⟨rfl, _, rfl, by simp⟩
  | replied hread hown => cases hout
  | dropped => cases hout
  | collected => exact ⟨hout, _, rfl, by simp⟩
  | lost => exact ⟨hout, _, rfl, by simp⟩

theorem Settled.run (hsettled : s.Settled id) (events : List Event) :
    (s.run events).Settled id :=
  run_of_step (P := fun t => t.Settled id) Settled.step hsettled events

/-- A reply that nobody waits for is passed over. -/
theorem readLine_of_not_waiting {text : String} {reply : Reply}
    (hread : Reply.read text = .ok reply) (hout : s.isWaiting reply.id = false) :
    s.readLine text = s := by
  simp [readLine, hread, deliver, hout]

/-- A reply is given to the request of its number, which leaves the table. -/
theorem Tracked.delivered_of_reply (htracked : s.Tracked) {text : String} {reply : Reply}
    (hread : Reply.read text = .ok reply) (hwaits : s.isWaiting reply.id = true) :
    (s.readLine text).isWaiting reply.id = false ∧
      (s.readLine text).mail? reply.id = some (.delivered reply) := by
  have hline : s.readLine text =
      { s.release reply.id with
        stages := s.stages.modify reply.id (Stage.receive (.delivered reply)) } := by
    simp [readLine, hread, deliver, hwaits]
  have hstage : (s.readLine text).stages[reply.id]? =
      (s.stages[reply.id]?).map (Stage.receive (.delivered reply)) := by
    simp [hline]
  refine ⟨?_, mail?_eq_some_iff.mpr ?_⟩
  · have hrelease : (s.release reply.id).isWaiting reply.id = false := by
      simp [isWaiting_release]
    rw [hline]
    exact hrelease
  · rw [hstage]
    rcases mail?_eq_some_iff.mp ((htracked.waiting reply.id).mp hwaits) with hwriting | hsent
    · exact .inl (by rw [hwriting]; rfl)
    · exact .inr (by rw [hsent]; rfl)

theorem settled_of_mail {mail : Mail} (hout : s.isWaiting id = false)
    (hmail : s.mail? id = some mail) : s.Settled id := by
  refine ⟨hout, ?_⟩
  rcases mail?_eq_some_iff.mp hmail with hstage | hstage
  · exact ⟨_, hstage, by simp⟩
  · exact ⟨_, hstage, by simp⟩

/-- A line changes no request but the one of its number. -/
theorem reply_of_changed {text : String}
    (hchanged : (s.readLine text).stages[id]? ≠ s.stages[id]?) :
    ∃ reply, Reply.read text = .ok reply ∧ reply.id = id := by
  have hchange := change_line s text id
  generalize hseen : s.view id = seen, hthen : (s.readLine text).view id = seen' at hchange
  have hdiffer : seen'.1 ≠ seen.1 := by
    rw [← hseen, ← hthen]
    exact hchanged
  cases hchange with
  | kept => exact absurd rfl hdiffer
  | replied hread hown => exact ⟨_, hread, hown⟩

/-! ## Requests that have come to their end -/

theorem finished_step {result : Attempt Reply}
    (hstage : s.stages[id]? = some (.finished result)) (event : Event) :
    (s.step event).stages[id]? = some (.finished result) := by
  refine view_step (P := fun seen => seen.1 = some (.finished result)) event hstage ?_
  intro seen after hchange hseen
  cases hchange with
  | kept => exact hseen
  | replied hread hown =>
      cases hseen
      rfl
  | dropped =>
      cases hseen
      rfl
  | _ => cases hseen

theorem finished_run {result : Attempt Reply}
    (hstage : s.stages[id]? = some (.finished result)) (events : List Event) :
    (s.run events).stages[id]? = some (.finished result) :=
  run_of_step (P := fun t => t.stages[id]? = some (.finished result)) finished_step hstage events

/-- A request whose line is not written is out of the table, and has failed. -/
theorem view_written_of_unwritten {mail : Mail} {refusal : Option String}
    (hstage : s.stages[id]? = some (.writing mail))
    (hrefused : s.inputOpen = false ∨ refusal.isSome = true) :
    ∃ f, (s.written id refusal).view id = (some (.finished (.error f)), false) := by
  rcases written_cases s refusal with ⟨hopen, rfl⟩ | ⟨f, hwhy⟩
  · simp [hopen] at hrefused
  · exact ⟨f, by rw [written_of_unwritten hstage hwhy, view_giveUp_self hstage]⟩

/-! ## After the end of the output -/

/-- A request that will never get its reply. -/
structure Unserved (s : Requests) (id : Nat) : Prop where
  closed : s.table = none
  mail : ∀ reply, s.mail? id ≠ some (.delivered reply)
  result : ∀ reply, s.stages[id]? ≠ some (.finished (.ok reply))

/-- When the output ends, or has ended, whoever has got no reply will never get one. -/
theorem unserved_step (hend : s.table = none ∨ event = .endOfOutput)
    (hmail : ∀ reply, s.mail? id ≠ some (.delivered reply))
    (hresult : ∀ reply, s.stages[id]? ≠ some (.finished (.ok reply))) :
    (s.step event).Unserved id := by
  have hwaits : s.isWaiting id = true → event = .endOfOutput := by
    intro hin
    rcases hend with hclosed | hnow
    · rw [isWaiting_of_table_none hclosed] at hin
      cases hin
    · exact hnow
  have hafter := view_step (P := fun seen => (seen.2 = true → event = .endOfOutput) ∧
    (∀ reply, seen.1.bind Stage.mail? ≠ some (.delivered reply)) ∧
    ∀ reply, seen.1 ≠ some (.finished (.ok reply))) event ⟨hwaits, hmail, hresult⟩ ?_
  · exact ⟨(table_step s event).mpr hend, hafter.2.1, hafter.2.2⟩
  · intro seen after hchange hseen
    rcases hseen with ⟨hin, hnone, hnever⟩
    cases hchange with
    | kept => exact ⟨hin, hnone, hnever⟩
    | entered htable => simp [htable] at hend
    | sent hopen => exact ⟨hin, hnone, by simp⟩
    | replied hread hown => cases hin rfl
    | @dropped stage =>
        rcases stage with _ | _ | (_ | _ | _) | (_ | _ | _) | _ <;>
          simp_all [Stage.mail?, Stage.receive]
    | collected => exact absurd rfl (hnone _)
    | _ => simp_all [Stage.mail?]

theorem Unserved.step (hunserved : s.Unserved id) (event : Event) :
    (s.step event).Unserved id :=
  unserved_step (.inl hunserved.closed) hunserved.mail hunserved.result

theorem Unserved.run (hunserved : s.Unserved id) (events : List Event) :
    (s.run events).Unserved id :=
  run_of_step (P := fun t => t.Unserved id) Unserved.step hunserved events

theorem table_run (hclosed : s.table = none) (events : List Event) :
    (s.run events).table = none :=
  run_of_step (P := fun t => t.table = none)
    (fun hnone event => (table_step _ event).mpr (.inl hnone)) hclosed events

/-- Once the output has ended, a request that takes the steps that are left to it comes to its
end. -/
theorem Tracked.exists_finished (htracked : s.Tracked) (hclosed : s.table = none)
    (hdrawn : id < s.stages.length) (refusal : Option String) :
    ∃ result, (s.run [.register id, .written id refusal, .collect id]).stages[id]? =
      some (.finished result) := by
  -- Nobody is in the table, so that something has come for whoever has entered it.
  have hcome : s.mail? id ≠ some .expected := by
    rw [ne_eq, ← htracked.waiting id, isWaiting_of_table_none hclosed]
    simp
  have hcollect : ∀ {t : Requests} {mail : Mail}, t.stages[id]? = some (.waiting mail) →
      mail ≠ .expected → ∃ result, (t.collect id).stages[id]? = some (.finished result) := by
    intro t mail hstage hmail
    cases mail with
    | expected => exact absurd rfl hmail
    | delivered reply =>
        exact ⟨reply.outcome, by simpa [collect, hstage] using getElem?_put_self hstage⟩
    | dropped =>
        exact ⟨_, by simpa [collect, hstage] using getElem?_put_self hstage⟩
  have hstage : s.stages[id]? = some s.stages[id] := List.getElem?_eq_getElem hdrawn
  generalize s.stages[id] = stage at hstage
  cases stage with
  | drawn =>
      have hgone : (s.step (.register id)).stages[id]? =
          some (.finished (.error (.driver .gone))) := by
        simpa [Requests.step, register, hstage, hclosed] using getElem?_put_self hstage
      exact ⟨_, finished_run hgone [.written id refusal, .collect id]⟩
  | writing mail =>
      have hregister : s.step (.register id) = s := by simp [Requests.step, register, hstage]
      rw [run_cons, hregister]
      rcases written_cases s refusal with ⟨hopen, rfl⟩ | ⟨f, hwhy⟩
      · have hsent : (s.step (.written id none)).stages[id]? = some (.waiting mail) := by
          simpa [Requests.step, written, hstage, hopen] using getElem?_put_self hstage
        exact hcollect hsent fun hmail => hcome (mail?_eq_some_iff.mpr (.inl (hmail ▸ hstage)))
      · have hfailed : (s.step (.written id refusal)).stages[id]? =
            some (.finished (.error f)) := by
          have hview := view_giveUp_self hstage f
          rw [← written_of_unwritten hstage hwhy] at hview
          exact congrArg Prod.fst hview
        exact ⟨_, finished_run hfailed [.collect id]⟩
  | waiting mail =>
      have hregister : s.step (.register id) = s := by simp [Requests.step, register, hstage]
      have hwritten : s.step (.written id refusal) = s := by simp [Requests.step, written, hstage]
      rw [run_cons, hregister, run_cons, hwritten]
      exact hcollect hstage fun hmail => hcome (mail?_eq_some_iff.mpr (.inr (hmail ▸ hstage)))
  | finished result => exact ⟨result, finished_run hstage _⟩

/-! ## The laws of the table -/

/-- What holds of requests and replies, whatever has happened and whatever happens then. -/
theorem replies_find_their_requests (events : List Event) :
    let s := start.run events
    -- No number is given to two requests, nor are two numbers written as the same word.
    ((start.numbers events).Nodup ∧
      (s.stages.length < UInt64.size → ((start.numbers events).map UInt64.ofNat).Nodup)) ∧
    -- A request ends with a reply of its own number, or with a failure for which there is a cause.
    (∀ (id : Nat) (result : Attempt Reply),
      s.stages[id]? = some (.finished result) → Ending events id result) ∧
    -- A line changes no more than one request.  A reply is given to the request of its number if
    -- that one is in the table, and if it is repeated then it changes none.
    (∀ (text : String) (i j : Nat), (s.step (.line text)).stages[i]? ≠ s.stages[i]? →
      (s.step (.line text)).stages[j]? ≠ s.stages[j]? → i = j) ∧
    (∀ (text : String) (reply : Reply) (again : String) (other : Reply) (between : List Event),
      Reply.read text = .ok reply →
      s.isWaiting reply.id = true → Reply.read again = .ok other → other.id = reply.id →
      let t := (s.step (.line text)).run between
      (s.step (.line text)).mail? reply.id = some (.delivered reply) ∧
        t.step (.line again) = t) ∧
    -- A request that is under way is in the table, or something has come for it.
    (∀ (id : Nat) (mail : Mail), s.mail? id = some mail →
      (s.isWaiting id = true ∧ mail = .expected) ∨
        (s.isWaiting id = false ∧ mail ≠ .expected ∧ Told events id mail)) ∧
    -- A request whose line is not written fails, and is never in the table again.
    (∀ (id : Nat) (mail : Mail) (refusal : Option String) (later : List Event),
      s.stages[id]? = some (.writing mail) →
      s.inputOpen = false ∨ refusal.isSome = true →
      let t := (s.step (.written id refusal)).run later
      (∃ f, t.stages[id]? = some (.finished (.error f))) ∧ t.isWaiting id = false) ∧
    -- Once the output has ended, the table stays closed, and whoever has got no reply fails.
    (∀ later : List Event,
      let t := (s.step .endOfOutput).run later
      t.table = none ∧
      ∀ id : Nat, (∀ reply, s.mail? id ≠ some (.delivered reply)) →
        (∀ result, s.stages[id]? ≠ some (.finished result)) →
        (∀ reply, t.stages[id]? ≠ some (.finished (.ok reply))) ∧
        (id < t.stages.length → ∀ refusal, ∃ f,
          (t.run [.register id, .written id refusal, .collect id]).stages[id]? =
            some (.finished (.error f)))) := by
  intro s
  have htracked : s.Tracked := tracked_run events
  have hpast : Accounted events s := accounted_run events
  refine ⟨⟨?_, ?_⟩, ?_, ?_, ?_, ?_, ?_, ?_⟩
  · rw [numbers_start]
    exact List.nodup_range
  · intro hfew
    rw [numbers_start]
    exact nodup_words hfew
  · intro id result hresult
    exact hpast.stages id _ hresult
  · intro text i j hfirst hsecond
    rcases reply_of_changed hfirst with ⟨reply, hread, hown⟩
    rcases reply_of_changed hsecond with ⟨other, hagain, hother⟩
    have hsame : reply = other := Except.ok.inj (hread.symm.trans hagain)
    rw [← hown, ← hother, hsame]
  · intro text reply again other between hread hwaits hagain hsame t
    rcases htracked.delivered_of_reply hread hwaits with ⟨hout, hmail⟩
    have hsettled : t.Settled reply.id := (settled_of_mail hout hmail).run between
    exact ⟨hmail, readLine_of_not_waiting hagain (hsame ▸ hsettled.1)⟩
  · intro id mail hmail
    have hwaiting := htracked.waiting id
    rw [hmail] at hwaiting
    by_cases hexpected : mail = .expected
    · exact .inl ⟨hwaiting.mpr (hexpected ▸ rfl), hexpected⟩
    · have hout : ¬s.isWaiting id = true := fun hin =>
        hexpected (Option.some.inj (hwaiting.mp hin))
      have htold : Told events id mail := by
        rcases mail?_eq_some_iff.mp hmail with hstage | hstage
        · exact hpast.stages id _ hstage
        · exact hpast.stages id _ hstage
      exact .inr ⟨by simpa using hout, hexpected, htold⟩
  · intro id mail refusal later hstage hrefused t
    rcases view_written_of_unwritten hstage hrefused with ⟨f, hview⟩
    have hfailed : (s.step (.written id refusal)).stages[id]? = some (.finished (.error f)) :=
      congrArg Prod.fst hview
    have hsettled : (s.step (.written id refusal)).Settled id :=
      ⟨congrArg Prod.snd hview, _, hfailed, by simp⟩
    exact ⟨⟨f, finished_run hfailed later⟩, (hsettled.run later).1⟩
  · intro later t
    have hclosed : t.table = none := table_run (s := s.step .endOfOutput) rfl later
    refine ⟨hclosed, fun id hmail hresult => ?_⟩
    have hunserved : t.Unserved id :=
      (unserved_step (.inr rfl) hmail fun reply => hresult _).run later
    refine ⟨hunserved.result, fun hdrawn refusal => ?_⟩
    have htracked' : t.Tracked := (htracked.step .endOfOutput).run later
    rcases htracked'.exists_finished hclosed hdrawn refusal with ⟨result, hfinished⟩
    cases result with
    | error f => exact ⟨f, hfinished⟩
    | ok reply =>
        exact absurd hfinished ((hunserved.run [.register id, .written id refusal,
          .collect id]).result reply)

/-- The reply to the second of two requests comes before its line is written, and comes twice; the
first gets none before the output ends. -/
theorem replies_to_two_requests :
    let s := start.run [.draw, .draw, .register 0, .register 1]
    let line := "\x7b\"id\":1,\"ok\":true\x7d"
    let reply : Reply := ⟨1, true, none, none, none⟩
    let t := (s.step (.line line)).run [.written 1 none]
    (s.isWaiting 1 = true ∧ (s.step (.line line)).mail? 1 = some (.delivered reply) ∧
      t.step (.line line) = t) ∧
      ∃ f, ((s.step .endOfOutput).run [.register 0, .written 0 none, .collect 0]).stages[0]? =
        some (.finished (.error f)) := by
  intro s line reply t
  have hlaws := replies_find_their_requests [.draw, .draw, .register 0, .register 1]
  have hread : Reply.read line = .ok reply := by
    let object : Value := .object [("id", .nat 1), ("ok", .bool true)]
    have htext : "\x7b\"id\":1,\"ok\":true\x7d".toList = Layout.oneLine.text 0 object := rfl
    have hreadable : Readable depthLimit object :=
      .object (by simp [Readable.nat, Readable.bool])
    have hdocument : Document.read line = ⟨.ofValue object, none⟩ :=
      Document.read_line htext hreadable
    rw [Reply.read, hdocument]
    rfl
  have hend := (hlaws.2.2.2.2.2.2 []).2 0 (by simp [mail?, start, run, step, register, put,
    Stage.mail?]) (by simp [start, run, step, register, put])
  exact ⟨⟨rfl, hlaws.2.2.2.1 line _ line _ [.written 1 none] hread rfl hread rfl⟩,
    hend.2 (by decide) none⟩

end Requests
end Session
end LayoutAudit
