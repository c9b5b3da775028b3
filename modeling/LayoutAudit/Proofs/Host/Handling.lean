import LayoutAudit.Host.Handler
import Mathlib.Data.List.Induction
import Mathlib.Data.List.Nodup

/-!
# Proofs.Host.Handling — commands find their pages

Commands come while others are carried out, and the browser is done with its tasks in any order.

* `Handler.Turn`, `Handler.turn_step` — everything that an event can do to a driver;
* `Handler.Opening`, `Handler.Open` — a page is opened with a number, and has not been closed since;
* `Handler.find?_run_iff` — the table holds the open pages and no others;
* `Handler.Due`, `Handler.Fair` — a task, or an answer, that a request can be given by its own
  command and its own results;
* `Handler.answered_once` — nothing is done about a request after it is answered;
* `Handler.commands_find_their_pages` — the laws of the driver.
-/

namespace LayoutAudit
namespace Host
namespace Handler

open Json (Value)
open Session (Command)

variable {β : Type} {h : Handler β} {past events : List (Event β)}

/-! ## Runs -/

@[simp] theorem run_nil (h : Handler β) : h.run [] = h := rfl

@[simp] theorem run_cons (h : Handler β) (event : Event β) (events : List (Event β)) :
    h.run (event :: events) = (h.step event).2.run events := rfl

theorem run_append (h : Handler β) (first rest : List (Event β)) :
    h.run (first ++ rest) = (h.run first).run rest := List.foldl_append

theorem run_concat (h : Handler β) (past : List (Event β)) (event : Event β) :
    h.run (past ++ [event]) = ((h.run past).step event).2 := by
  rw [run_append, run_cons, run_nil]

theorem deeds_append (h : Handler β) (first rest : List (Event β)) :
    h.deeds (first ++ rest) = h.deeds first ++ (h.run first).deeds rest := by
  induction first generalizing h with
  | nil => rfl
  | cons event first ih => simp [deeds, ih]

theorem deeds_cons_of_some {event : Event β} {deed : Deed β}
    (hnow : (h.step event).1 = some deed) (events : List (Event β)) :
    h.deeds (event :: events) = (event.id, deed) :: (h.step event).2.deeds events := by
  simp [deeds, hnow]

/-- A deed is done at an event of its request. -/
theorem exists_event_of_deeds {h : Handler β} {before after : List (Nat × Deed β)} {id : Nat}
    {deed : Deed β} (hdeeds : h.deeds events = before ++ (id, deed) :: after) :
    ∃ past event rest, events = past ++ event :: rest ∧ event.id = id ∧
      ((h.run past).step event).1 = some deed ∧ after = ((h.run past).step event).2.deeds rest := by
  induction events generalizing h before with
  | nil => simp [deeds] at hdeeds
  | cons event events ih =>
      rcases hnow : (h.step event).1 with _ | now
      · rw [deeds, hnow] at hdeeds
        rcases ih hdeeds with ⟨past, later, rest, rfl, hlater⟩
        exact ⟨event :: past, later, rest, rfl, hlater⟩
      · rw [deeds_cons_of_some hnow] at hdeeds
        rcases before with _ | ⟨first, before⟩
        · rcases List.cons.inj hdeeds with ⟨hfirst, hafter⟩
          cases hfirst
          exact ⟨[], event, events, rfl, rfl, hnow, hafter.symm⟩
        · rcases ih (List.cons.inj hdeeds).2 with ⟨past, later, rest, rfl, hlater⟩
          exact ⟨event :: past, later, rest, rfl, hlater⟩

/-! ## What an event can do -/

/-- What the browser is doing on behalf of a request. -/
def asked (h : Handler β) (id : Nat) : Option (Task β) := h.tasks.lookup id

/-- The commands that are answered at once. -/
inductive Immediate (h : Handler β) : Command → Answer → Prop where
  | ping : Immediate h .ping .done
  | goto {number : Nat} {url : String} (hnone : h.pages.find? number = none) :
      Immediate h (.goto number url) (unknownPage number)
  | measure {number : Nat} {input : Value} (hnone : h.pages.find? number = none) :
      Immediate h (.measure number input) (unknownPage number)
  | close {number : Nat} (hnone : h.pages.find? number = none) :
      Immediate h (.close number) .done

/-- The tasks that commands begin with, and the table of pages from then on. -/
inductive Begins (h : Handler β) : Command → Task β → Pages (Window β) → Prop where
  | openPage {v : Viewport} :
      Begins h (.openPage v) (.newContext v.width v.height) h.pages
  | goto {number : Nat} {url : String} {w : Window β} (hfound : h.pages.find? number = some w) :
      Begins h (.goto number url) (.goto w.page url) h.pages
  | measure {number : Nat} {input : Value} {w : Window β}
      (hfound : h.pages.find? number = some w) :
      Begins h (.measure number input) (.measure w.page input) h.pages
  | close {number : Nat} {w : Window β} (hfound : h.pages.find? number = some w) :
      Begins h (.close number) (.closeContext w.context) (h.pages.remove number)

/-- The results that are answers already. -/
inductive Ends : Task β → Result β → Answer → Prop where
  | wentTo {page : β} {url : String} : Ends (.goto page url) .done .done
  | measured {page : β} {input m : Value} : Ends (.measure page input) (.measured m) (.measured m)
  | closed {context : β} : Ends (.closeContext context) .done .done
  | failed {task : Task β} {message : String} : Ends task (.failed message) (.failed message)

/-- Everything that an event can do to a driver. -/
inductive Turn (h : Handler β) : Event β → Option (Deed β) → Handler β → Prop where
  | atOnce {id : Nat} {command : Command} {answer : Answer} (hanswer : h.Immediate command answer) :
      Turn h (.told id command) (some (.answers answer)) h
  | begun {id : Nat} {command : Command} {task : Task β} {pages : Pages (Window β)}
      (htask : h.Begins command task pages) :
      Turn h (.told id command) (some (.asks task)) ({ h with pages := pages }.assign id task)
  | goesOn {id width height : Nat} {context : β}
      (hasked : h.asked id = some (.newContext width height)) :
      Turn h (.settled id (.gave context)) (some (.asks (.newPage context)))
        ((h.relieve id).assign id (.newPage context))
  | opened {id : Nat} {w : Window β} (hasked : h.asked id = some (.newPage w.context)) :
      Turn h (.settled id (.gave w.page)) (some (.answers (.opened (h.pages.opened + 1))))
        { h.relieve id with pages := (h.pages.add w).2 }
  | ended {id : Nat} {task : Task β} {result : Result β} {answer : Answer}
      (hasked : h.asked id = some task) (hends : Ends task result answer) :
      Turn h (.settled id result) (some (.answers answer)) (h.relieve id)
  | ignored {id : Nat} {result : Result β}
      (hother : ∀ context page, h.asked id = some (.newPage context) → result ≠ .gave page) :
      Turn h (.settled id result) none h

theorem turn_handle (h : Handler β) (id : Nat) (command : Command) :
    Turn h (.told id command) (some (h.handle id command).1) (h.handle id command).2 := by
  cases command with
  | ping => exact .atOnce .ping
  | openPage v => exact .begun .openPage
  | goto number url =>
      rcases hfound : h.pages.find? number with _ | w <;> simp only [handle, hfound]
      · exact .atOnce (.goto hfound)
      · exact .begun (.goto hfound)
  | measure number input =>
      rcases hfound : h.pages.find? number with _ | w <;> simp only [handle, hfound]
      · exact .atOnce (.measure hfound)
      · exact .begun (.measure hfound)
  | close number =>
      rcases hfound : h.pages.find? number with _ | w <;> simp only [handle, hfound]
      · exact .atOnce (.close hfound)
      · exact .begun (.close hfound)

theorem turn_settle (h : Handler β) (id : Nat) (result : Result β) :
    Turn h (.settled id result) (h.settle id result).1 (h.settle id result).2 := by
  unfold settle
  split
  case h_1 task message hasked => exact .ended hasked .failed
  case h_2 hasked => exact .goesOn hasked
  case h_3 context page hasked => exact .opened (w := ⟨context, page⟩) hasked
  case h_4 hasked => exact .ended hasked .measured
  case h_5 hasked => exact .ended hasked .wentTo
  case h_6 hasked => exact .ended hasked .closed
  case h_7 _ _ hpage _ _ _ => exact .ignored hpage

theorem turn_step (h : Handler β) (event : Event β) :
    Turn h event (h.step event).1 (h.step event).2 := by
  cases event with
  | told id command => exact turn_handle h id command
  | settled id result => exact turn_settle h id result

/-! ## The open pages -/

/-- A course of events that has just opened a page: the browser has given the page for a request,
and the driver has answered with a number. -/
def Opening (past : List (Event β)) (id number : Nat) (w : Window β) : Prop :=
  ∃ before, past = before ++ [.settled id (.gave w.page)] ∧
    (start.run before).asked id = some (.newPage w.context) ∧
    ((start.run before).step (.settled id (.gave w.page))).1 = some (.answers (.opened number))

/-- A page was opened with a number, and no command to close it has come since. -/
def Open (past : List (Event β)) (number : Nat) (w : Window β) : Prop :=
  ∃ opening id since, past = opening ++ since ∧ Opening opening id number w ∧
    ∀ closer, .told closer (.close number) ∉ since

theorem settle_gave {id : Nat} {context : β} (hasked : h.asked id = some (.newPage context))
    (page : β) :
    h.settle id (.gave page) =
      (some (.answers (.opened (h.pages.opened + 1))),
        { h.relieve id with pages := (h.pages.add ⟨context, page⟩).2 }) := by
  unfold settle
  rw [show h.tasks.lookup id = some (.newPage context) from hasked]
  rfl

/-- The event that opens a page is the last of the course. -/
theorem opening_concat_iff {event : Event β} {id number : Nat} {w : Window β} :
    Opening (past ++ [event]) id number w ↔
      event = .settled id (.gave w.page) ∧
        (start.run past).asked id = some (.newPage w.context) ∧
        number = (start.run past).pages.opened + 1 := by
  constructor
  · rintro ⟨before, hpast, hasked, hdeed⟩
    rcases List.append_inj' hpast rfl with ⟨rfl, hevent⟩
    refine ⟨by simpa using hevent, hasked, ?_⟩
    simpa [step, settle_gave hasked, eq_comm] using hdeed
  · rintro ⟨rfl, hasked, rfl⟩
    exact ⟨past, rfl, hasked, by simp [step, settle_gave hasked]⟩

theorem open_concat_iff {event : Event β} {number : Nat} {w : Window β} :
    Open (past ++ [event]) number w ↔
      (∃ id, Opening (past ++ [event]) id number w) ∨
        Open past number w ∧ ∀ closer, event ≠ .told closer (.close number) := by
  constructor
  · rintro ⟨opening, id, since, hpast, hopening, hsince⟩
    rcases List.eq_nil_or_concat since with rfl | ⟨since, last, rfl⟩
    · exact .inl ⟨id, by simpa [hpast] using hopening⟩
    · rw [List.concat_eq_append, ← List.append_assoc] at hpast
      rcases List.append_inj' hpast rfl with ⟨rfl, hlast⟩
      refine .inr ⟨⟨opening, id, since, rfl, hopening, ?_⟩, ?_⟩
      · exact fun closer hin => hsince closer (by simp [hin])
      · rintro closer rfl
        exact hsince closer (by simpa using Or.inr (List.singleton_inj.1 hlast))
  · rintro (⟨id, hopening⟩ | ⟨⟨opening, id, since, rfl, hopening, hsince⟩, hother⟩)
    · exact ⟨past ++ [event], id, [], by simp, hopening, by simp⟩
    · refine ⟨opening, id, since ++ [event], by simp, hopening, fun closer hin => ?_⟩
      rcases List.mem_append.1 hin with hold | hnew
      · exact hsince closer hold
      · exact hother closer (List.mem_singleton.1 hnew).symm

/-- What an event does to the table: it can add the next page, and it can remove a page that is to
be closed. -/
theorem find?_step_iff (h : Handler β) (event : Event β) (number : Nat) (w : Window β) :
    (h.step event).2.pages.find? number = some w ↔
      (∃ id, event = .settled id (.gave w.page) ∧ h.asked id = some (.newPage w.context) ∧
        number = h.pages.opened + 1) ∨
      h.pages.find? number = some w ∧ ∀ closer, event ≠ .told closer (.close number) := by
  have hturn := turn_step h event
  generalize (h.step event).1 = deed, (h.step event).2 = next at hturn
  cases hturn with
  | atOnce hanswer =>
      cases hanswer with
      | close hnone =>
          simp only [reduceCtorEq, false_and, exists_false, false_or]
          refine ⟨fun hfound => ⟨hfound, ?_⟩, And.left⟩
          rintro closer hsame
          cases hsame
          rw [hnone] at hfound
          cases hfound
      | _ => simp
  | begun htask =>
      cases htask with
      | close hfound => simp [assign, Pages.find?_remove_eq_some_iff, eq_comm (a := number)]
      | _ => simp [assign]
  | goesOn hasked => simp [assign, relieve, hasked]
  | @opened id opened hasked =>
      rw [Pages.find?_add_eq_some_iff]
      constructor
      · rintro (hfound | ⟨hnumber, rfl⟩)
        · exact .inr ⟨hfound, by simp⟩
        · exact .inl ⟨id, rfl, hasked, hnumber⟩
      · rintro (⟨other, hevent, hasked', hnumber⟩ | ⟨hfound, -⟩)
        · -- It is the same request, and so the same context and the same page.
          simp only [Event.settled.injEq, Result.gave.injEq] at hevent
          rcases hevent with ⟨rfl, hpage⟩
          have hcontext : opened.context = w.context := by simpa [hasked] using hasked'
          exact .inr ⟨hnumber, Window.ext hcontext.symm hpage.symm⟩
        · exact .inl hfound
  | ended hasked hends => cases hends <;> simp [relieve]
  | ignored hother =>
      refine ⟨fun hfound => .inr ⟨hfound, by simp⟩, ?_⟩
      rintro (⟨other, hevent, hasked, -⟩ | ⟨hfound, -⟩)
      · cases hevent
        exact absurd rfl (hother _ _ hasked)
      · exact hfound

/-- The table holds the open pages and no others. -/
theorem find?_run_iff (past : List (Event β)) (number : Nat) (w : Window β) :
    (start.run past).pages.find? number = some w ↔ Open past number w := by
  induction past using List.reverseRecOn with
  | nil => simp [start, Open, Opening]
  | append_singleton past event ih =>
      rw [run_concat, find?_step_iff, ih, open_concat_iff]
      simp only [opening_concat_iff]

theorem mem_numbers_run_iff (past : List (Event β)) (number : Nat) :
    number ∈ (start.run past).pages.numbers ↔ ∃ w, Open past number w := by
  simp only [Pages.mem_numbers_iff, find?_run_iff]

theorem find?_run_eq_none_iff (past : List (Event β)) (number : Nat) :
    (start.run past).pages.find? number = none ↔ ∀ w, ¬ Open past number w := by
  simp only [← find?_run_iff, Option.eq_none_iff_forall_ne_some, ne_eq]

/-! ## Where tasks and answers come from -/

/-- The tasks that a request can be given: those that its own command calls for, about the page that
was open with that number when the command came, with what the browser gave for this request. -/
inductive Due (past : List (Event β)) (id : Nat) : Task β → Prop where
  | newContext {v : Viewport} (htold : .told id (.openPage v) ∈ past) :
      Due past id (.newContext v.width v.height)
  | newPage {v : Viewport} {context : β} (htold : .told id (.openPage v) ∈ past)
      (hgave : .settled id (.gave context) ∈ past) : Due past id (.newPage context)
  | goto {before since : List (Event β)} {number : Nat} {url : String} {w : Window β}
      (htold : past = before ++ .told id (.goto number url) :: since)
      (hopen : Open before number w) : Due past id (.goto w.page url)
  | measure {before since : List (Event β)} {number : Nat} {input : Value} {w : Window β}
      (htold : past = before ++ .told id (.measure number input) :: since)
      (hopen : Open before number w) : Due past id (.measure w.page input)
  | closeContext {before since : List (Event β)} {number : Nat} {w : Window β}
      (htold : past = before ++ .told id (.close number) :: since)
      (hopen : Open before number w) : Due past id (.closeContext w.context)

/-- The answers that a request can be given: what its own command is answered at once, or what has
come of its own task. -/
inductive Fair (past : List (Event β)) (id : Nat) : Answer → Prop where
  | ping (htold : .told id .ping ∈ past) : Fair past id .done
  | goto {before since : List (Event β)} {number : Nat} {url : String}
      (htold : past = before ++ .told id (.goto number url) :: since)
      (hnone : ∀ w, ¬ Open before number w) : Fair past id (unknownPage number)
  | measure {before since : List (Event β)} {number : Nat} {input : Value}
      (htold : past = before ++ .told id (.measure number input) :: since)
      (hnone : ∀ w, ¬ Open before number w) : Fair past id (unknownPage number)
  | close {before since : List (Event β)} {number : Nat}
      (htold : past = before ++ .told id (.close number) :: since)
      (hnone : ∀ w, ¬ Open before number w) : Fair past id .done
  | opened {opening since : List (Event β)} {number : Nat} {w : Window β}
      (hpast : past = opening ++ since) (hdue : Due past id (.newPage w.context))
      (hopening : Opening opening id number w) : Fair past id (.opened number)
  | ended {task : Task β} {result : Result β} {answer : Answer} (hdue : Due past id task)
      (hsettled : .settled id result ∈ past) (hends : Ends task result answer) :
      Fair past id answer

theorem Due.mono {id : Nat} {task : Task β} (hdue : Due past id task) (more : List (Event β)) :
    Due (past ++ more) id task := by
  cases hdue with
  | newContext htold => exact .newContext (List.mem_append_left more htold)
  | newPage htold hgave =>
      exact .newPage (List.mem_append_left more htold) (List.mem_append_left more hgave)
  | goto htold hopen => exact .goto (by rw [htold, List.append_assoc, List.cons_append]) hopen
  | measure htold hopen => exact .measure (by rw [htold, List.append_assoc, List.cons_append]) hopen
  | closeContext htold hopen =>
      exact .closeContext (by rw [htold, List.append_assoc, List.cons_append]) hopen

theorem Fair.mono {id : Nat} {answer : Answer} (hfair : Fair past id answer)
    (more : List (Event β)) : Fair (past ++ more) id answer := by
  cases hfair with
  | ping htold => exact .ping (List.mem_append_left more htold)
  | goto htold hnone => exact .goto (by rw [htold, List.append_assoc, List.cons_append]) hnone
  | measure htold hnone => exact .measure (by rw [htold, List.append_assoc, List.cons_append]) hnone
  | close htold hnone => exact .close (by rw [htold, List.append_assoc, List.cons_append]) hnone
  | opened hpast hdue hopening =>
      exact .opened (by rw [hpast, List.append_assoc]) (hdue.mono more) hopening
  | ended hdue hsettled hends =>
      exact .ended (hdue.mono more) (List.mem_append_left more hsettled) hends

/-- What the driver does about a request is called for by that request. -/
def Called (past : List (Event β)) (id : Nat) : Deed β → Prop
  | .asks task => Due past id task
  | .answers answer => Fair past id answer

theorem Due.of_begins {id : Nat} {command : Command} {task : Task β} {pages : Pages (Window β)}
    (htask : (start.run past).Begins command task pages) :
    Due (past ++ [.told id command]) id task := by
  cases htask with
  | openPage => exact .newContext (by simp)
  | goto hfound => exact .goto rfl ((find?_run_iff _ _ _).1 hfound)
  | measure hfound => exact .measure rfl ((find?_run_iff _ _ _).1 hfound)
  | close hfound => exact .closeContext rfl ((find?_run_iff _ _ _).1 hfound)

theorem Fair.of_immediate {id : Nat} {command : Command} {answer : Answer}
    (hanswer : (start.run past).Immediate command answer) :
    Fair (past ++ [.told id command]) id answer := by
  cases hanswer with
  | ping => exact .ping (by simp)
  | goto hnone => exact .goto rfl ((find?_run_eq_none_iff _ _).1 hnone)
  | measure hnone => exact .measure rfl ((find?_run_eq_none_iff _ _).1 hnone)
  | close hnone => exact .close rfl ((find?_run_eq_none_iff _ _).1 hnone)

/-- Every task that the browser is at is due. -/
def AllDue (past : List (Event β)) (h : Handler β) : Prop :=
  ∀ id task, (id, task) ∈ h.tasks → Due past id task

theorem AllDue.of_asked {id : Nat} {task : Task β} (hdue : AllDue past h)
    (hasked : h.asked id = some task) : Due past id task := by
  rcases List.lookup_eq_some_iff.1 hasked with ⟨first, rest, htasks, -⟩
  exact hdue id task (by simp [htasks])

theorem AllDue.mono (hdue : AllDue past h) (more : List (Event β)) : AllDue (past ++ more) h :=
  fun id task hin => (hdue id task hin).mono more

theorem AllDue.relieve (hdue : AllDue past h) (id : Nat) : AllDue past (h.relieve id) :=
  fun other task hin => hdue other task (List.mem_of_mem_filter hin)

theorem AllDue.assign {id : Nat} {task : Task β} (hdue : AllDue past h) (htask : Due past id task) :
    AllDue past (h.assign id task) := by
  intro other otherTask hin
  rcases List.mem_append.1 hin with hold | hnew
  · exact hdue other otherTask hold
  · cases List.mem_singleton.1 hnew
    exact htask

/-- An event leaves only tasks that are due, and what the driver does at it is called for. -/
theorem AllDue.step (hdue : AllDue past (start.run past)) (event : Event β) :
    AllDue (past ++ [event]) (start.run (past ++ [event])) ∧
      ∀ deed, ((start.run past).step event).1 = some deed → Called (past ++ [event]) event.id deed := by
  have hold := hdue.mono [event]
  have hnow : event ∈ past ++ [event] := by simp
  have hturn := turn_step (start.run past) event
  rw [run_concat]
  generalize hdeed : ((start.run past).step event).1 = deed,
    ((start.run past).step event).2 = next at hturn
  cases hturn with
  | atOnce hanswer =>
      refine ⟨hold, ?_⟩
      rintro _ ⟨⟩
      exact Fair.of_immediate hanswer
  | @begun id command task pages htask =>
      have hnew : Due (past ++ [.told id command]) id task := .of_begins htask
      refine ⟨AllDue.assign hold hnew, ?_⟩
      rintro _ ⟨⟩
      exact hnew
  | goesOn hasked =>
      rcases hdue.of_asked hasked with ⟨htold⟩
      have hnew := Due.newPage (List.mem_append_left [_] htold) hnow
      refine ⟨(hold.relieve _).assign hnew, ?_⟩
      rintro _ ⟨⟩
      exact hnew
  | opened hasked =>
      refine ⟨hold.relieve _, ?_⟩
      rintro _ ⟨⟩
      exact .opened (List.append_nil _).symm ((hdue.of_asked hasked).mono _)
        (opening_concat_iff.2 ⟨rfl, hasked, rfl⟩)
  | ended hasked hends =>
      refine ⟨hold.relieve _, ?_⟩
      rintro _ ⟨⟩
      exact .ended ((hdue.of_asked hasked).mono _) hnow hends
  | ignored hother =>
      refine ⟨hold, ?_⟩
      rintro _ ⟨⟩

theorem allDue_run (past : List (Event β)) : AllDue past (start.run past) := by
  induction past using List.reverseRecOn with
  | nil => simp [AllDue, start]
  | append_singleton past event ih => exact (ih.step event).1

/-- Everything that the driver does is called for by the request that it is about. -/
theorem called_of_mem_deeds {id : Nat} {deed : Deed β} (hin : (id, deed) ∈ start.deeds events) :
    Called events id deed := by
  rcases List.append_of_mem hin with ⟨before, after, hdeeds⟩
  rcases exists_event_of_deeds hdeeds with ⟨past, event, rest, rfl, rfl, hdeed, -⟩
  have hcalled := ((allDue_run past).step event).2 deed hdeed
  rw [← List.singleton_append, ← List.append_assoc]
  cases deed with
  | asks task => exact Due.mono hcalled rest
  | answers answer => exact Fair.mono hcalled rest

/-! ## Requests that are answered -/

/-- The numbers of the requests whose commands come, in order. -/
def requests (events : List (Event β)) : List Nat :=
  events.filterMap fun
    | .told id _ => some id
    | .settled _ _ => none

theorem mem_requests_iff {id : Nat} :
    id ∈ requests events ↔ ∃ command, .told id command ∈ events := by
  simp only [requests, List.mem_filterMap]
  constructor
  · rintro ⟨event, hin, hid⟩
    cases event with
    | told other command =>
        cases hid
        exact ⟨command, hin⟩
    | settled other result => cases hid
  · rintro ⟨command, hin⟩
    exact ⟨_, hin, rfl⟩

/-- The browser is at no task for a request. -/
def Idle (h : Handler β) (id : Nat) : Prop := ∀ task, (id, task) ∉ h.tasks

theorem Idle.not_asked {id : Nat} (hidle : h.Idle id) : h.asked id = none := by
  rw [asked, List.lookup_eq_none_iff]
  rintro ⟨other, task⟩ hin
  rw [bne_iff_ne]
  rintro rfl
  exact hidle task hin

theorem idle_relieve (h : Handler β) (id : Nat) : (h.relieve id).Idle id := by
  intro task hin
  simp [relieve] at hin

theorem Idle.relieve {id : Nat} (hidle : h.Idle id) (other : Nat) : (h.relieve other).Idle id :=
  fun task hin => hidle task (List.mem_of_mem_filter hin)

theorem Idle.assign {id other : Nat} (hidle : h.Idle id) (hother : id ≠ other) (task : Task β) :
    (h.assign other task).Idle id := by
  intro idTask hin
  rcases List.mem_append.1 hin with hold | hnew
  · exact hidle idTask hold
  · cases List.mem_singleton.1 hnew
    exact hother rfl

/-- Without a command, nothing happens to a request for which the browser is at no task. -/
theorem Idle.step {id : Nat} (hidle : h.Idle id) {event : Event β}
    (hnew : ∀ command, event ≠ .told id command) :
    (h.step event).2.Idle id ∧ ∀ deed, (h.step event).1 = some deed → event.id ≠ id := by
  have hturn := turn_step h event
  generalize (h.step event).1 = deed, (h.step event).2 = next at hturn
  have hother {other : Nat} {task : Task β} (hasked : h.asked other = some task) : other ≠ id := by
    rintro rfl
    simp [hidle.not_asked] at hasked
  cases hturn with
  | @atOnce other command answer hanswer =>
      refine ⟨hidle, ?_⟩
      rintro deed - rfl
      exact hnew command rfl
  | @begun other command task pages htask =>
      have helse : other ≠ id := by
        rintro rfl
        exact hnew command rfl
      exact ⟨Idle.assign hidle helse.symm task, fun deed _ => helse⟩
  | goesOn hasked =>
      exact ⟨(hidle.relieve _).assign (hother hasked).symm _, fun deed _ => hother hasked⟩
  | opened hasked => exact ⟨hidle.relieve _, fun deed _ => hother hasked⟩
  | ended hasked hends => exact ⟨hidle.relieve _, fun deed _ => hother hasked⟩
  | ignored hother =>
      refine ⟨hidle, ?_⟩
      rintro deed ⟨⟩

theorem Idle.deeds {id : Nat} (hidle : h.Idle id)
    (hnew : id ∉ requests events) : ∀ deed ∈ h.deeds events, deed.1 ≠ id := by
  induction events generalizing h with
  | nil => simp [Handler.deeds]
  | cons event events ih =>
      have hstep := hidle.step fun command (hsame : event = .told id command) =>
        hnew (mem_requests_iff.2 ⟨command, by simp [hsame]⟩)
      have hrest : id ∉ requests events := fun hin => by
        rcases mem_requests_iff.1 hin with ⟨command, htold⟩
        exact hnew (mem_requests_iff.2 ⟨command, List.mem_cons_of_mem event htold⟩)
      intro deed hin
      rcases List.mem_append.1 hin with hnow | hlater
      · rcases List.mem_map.1 hnow with ⟨done, hdone, rfl⟩
        exact hstep.2 done (Option.mem_toList.1 hdone)
      · exact ih hstep.1 hrest deed hlater

/-- A request has had its command when the browser is at a task for it. -/
theorem Due.mem_requests {id : Nat} {task : Task β} (hdue : Due past id task) :
    id ∈ requests past := by
  rw [mem_requests_iff]
  cases hdue with
  | newContext htold => exact ⟨_, htold⟩
  | newPage htold hgave => exact ⟨_, htold⟩
  | goto htold hopen => exact ⟨_, htold ▸ List.mem_append_cons_self⟩
  | measure htold hopen => exact ⟨_, htold ▸ List.mem_append_cons_self⟩
  | closeContext htold hopen => exact ⟨_, htold ▸ List.mem_append_cons_self⟩

theorem idle_of_not_mem {id : Nat} (hnew : id ∉ requests past) : (start.run past).Idle id :=
  fun task hin => hnew (allDue_run past id task hin).mem_requests

theorem requests_append (first rest : List (Event β)) :
    requests (first ++ rest) = requests first ++ requests rest := List.filterMap_append

theorem requests_told_cons (id : Nat) (command : Command) (rest : List (Event β)) :
    requests (.told id command :: rest) = id :: requests rest := rfl

/-- When a request is answered, the browser is at no task for it any more, and no command comes for
it again. -/
theorem idle_of_answered {event : Event β} {rest : List (Event β)} {answer : Answer}
    (hrequests : (requests (past ++ event :: rest)).Nodup)
    (hanswer : ((start.run past).step event).1 = some (.answers answer)) :
    ((start.run past).step event).2.Idle event.id ∧ event.id ∉ requests rest := by
  have hturn := turn_step (start.run past) event
  rw [hanswer] at hturn
  generalize ((start.run past).step event).2 = next at hturn
  rw [requests_append, List.nodup_append] at hrequests
  -- A request for which the browser was at a task has had its command.
  have htold {id : Nat} {task : Task β} (hasked : (start.run past).asked id = some task)
      {result : Result β} (hevent : event = .settled id result) : id ∉ requests rest := by
    intro hin
    have hpast := ((allDue_run past).of_asked hasked).mem_requests
    exact hrequests.2.2 id hpast id (by simpa [hevent, requests] using hin) rfl
  cases hturn with
  | @atOnce id command answer hatOnce =>
      rw [requests_told_cons, List.nodup_cons] at hrequests
      refine ⟨idle_of_not_mem fun hin => ?_, hrequests.2.1.1⟩
      exact hrequests.2.2 id hin id List.mem_cons_self rfl
  | opened hasked => exact ⟨idle_relieve _ _, htold hasked rfl⟩
  | ended hasked hends => exact ⟨idle_relieve _ _, htold hasked rfl⟩

/-- Nothing is done about a request after it is answered. -/
theorem answered_once (hrequests : (requests events).Nodup)
    {before after : List (Nat × Deed β)} {id : Nat} {answer : Answer}
    (hdeeds : start.deeds events = before ++ (id, .answers answer) :: after) :
    ∀ deed ∈ after, deed.1 ≠ id := by
  -- The events after the answer find the browser idle for the request, and bring no command for it.
  rcases exists_event_of_deeds hdeeds with ⟨past, event, rest, rfl, rfl, hanswer, rfl⟩
  rcases idle_of_answered hrequests hanswer with ⟨hidle, hrest⟩
  exact hidle.deeds hrest

/-! ## Requests that are not forgotten -/

/-- A request is answered, or the browser is at a task for it. -/
def Served (past : List (Event β)) (id : Nat) : Prop :=
  (∃ answer, (id, .answers answer) ∈ start.deeds past) ∨ ¬ (start.run past).Idle id

theorem mem_deeds_concat {event : Event β} {deed : Deed β}
    (hdeed : ((start.run past).step event).1 = some deed) :
    (event.id, deed) ∈ start.deeds (past ++ [event]) := by
  simp [deeds_append, deeds, hdeed]

theorem not_idle_assign (h : Handler β) (id : Nat) (task : Task β) : ¬ (h.assign id task).Idle id :=
  fun hidle => hidle task (by simp [assign])

theorem Idle.of_relieve {id other : Nat} (hidle : (h.relieve other).Idle id) (hother : id ≠ other) :
    h.Idle id :=
  fun task hin => hidle task (by simp [Handler.relieve, hin, hother])

theorem Idle.of_assign {id other : Nat} {task : Task β} (hidle : (h.assign other task).Idle id) :
    h.Idle id :=
  fun own hin => hidle own (List.mem_append_left _ hin)

/-- A request that is not answered yet, or has just come, is served. -/
theorem served_concat {event : Event β} {id : Nat}
    (hbefore : (∃ command, event = .told id command) ∨ ¬ (start.run past).Idle id) :
    Served (past ++ [event]) id := by
  have hturn := turn_step (start.run past) event
  have hdone (answer : Answer) (hanswer : ((start.run past).step event).1 = some (.answers answer))
      (hid : event.id = id) : (id, .answers answer) ∈ start.deeds (past ++ [event]) :=
    hid ▸ mem_deeds_concat hanswer
  rw [Served, run_concat]
  generalize hdeed : ((start.run past).step event).1 = deed,
    ((start.run past).step event).2 = next at hturn hdone ⊢
  cases hturn with
  | @atOnce other command answer hanswer =>
      rcases hbefore with ⟨_, htold⟩ | hbusy
      · cases htold
        exact .inl ⟨answer, hdone answer rfl rfl⟩
      · exact .inr hbusy
  | @begun other command task pages htask =>
      rcases hbefore with ⟨_, htold⟩ | hbusy
      · cases htold
        exact .inr (not_idle_assign _ _ _)
      · exact .inr fun hidle => hbusy (Idle.of_assign hidle)
  | @goesOn other width height context hasked =>
      have hbusy := hbefore.resolve_left (by simp)
      by_cases hother : id = other
      · exact .inr (hother ▸ not_idle_assign _ _ _)
      · exact .inr fun hidle => hbusy (hidle.of_assign.of_relieve hother)
  | @opened other w hasked =>
      have hbusy := hbefore.resolve_left (by simp)
      by_cases hother : id = other
      · exact .inl ⟨_, hdone _ rfl hother.symm⟩
      · exact .inr fun hidle => hbusy (Idle.of_relieve hidle hother)
  | @ended other task result answer hasked hends =>
      have hbusy := hbefore.resolve_left (by simp)
      by_cases hother : id = other
      · exact .inl ⟨_, hdone _ rfl hother.symm⟩
      · exact .inr fun hidle => hbusy (Idle.of_relieve hidle hother)
  | ignored hother => exact .inr (hbefore.resolve_left (by simp))

theorem served_run {id : Nat} (hin : id ∈ requests past) : Served past id := by
  induction past using List.reverseRecOn with
  | nil => simp [requests] at hin
  | append_singleton past event ih =>
      rw [requests_append, List.mem_append] at hin
      -- What has been answered stays so; what has not is served again by the event.
      rcases hin with hold | hnew
      · rcases ih hold with ⟨answer, hanswer⟩ | hbusy
        · exact .inl ⟨answer, by simp [deeds_append, hanswer]⟩
        · exact served_concat (.inr hbusy)
      · rcases mem_requests_iff.1 hnew with ⟨command, htold⟩
        exact served_concat (.inl ⟨command, (List.mem_singleton.1 htold).symm⟩)

/-! ## The numbers of pages -/

/-- The number that a deed gives to a page. -/
def givenBy : Deed β → Option Nat
  | .answers (.opened number) => some number
  | _ => none

/-- The numbers that are given to pages, in order. -/
def given (deeds : List (Nat × Deed β)) : List Nat :=
  deeds.filterMap fun deed => givenBy deed.2

/-- The next page that is opened gets the next number. -/
theorem number_step (h : Handler β) (event : Event β) :
    (((h.step event).1.bind givenBy = some (h.pages.opened + 1) ∧
        (h.step event).2.pages.opened = h.pages.opened + 1)) ∨
      (h.step event).1.bind givenBy = none ∧
        (h.step event).2.pages.opened = h.pages.opened := by
  have hturn := turn_step h event
  generalize (h.step event).1 = deed, (h.step event).2 = next at hturn
  cases hturn with
  | opened hasked => exact .inl ⟨rfl, rfl⟩
  | atOnce hanswer => cases hanswer <;> exact .inr ⟨rfl, rfl⟩
  | begun htask => cases htask <;> exact .inr ⟨rfl, rfl⟩
  | ended hasked hends => cases hends <;> exact .inr ⟨rfl, rfl⟩
  | goesOn hasked => exact .inr ⟨rfl, rfl⟩
  | ignored hother => exact .inr ⟨rfl, rfl⟩

theorem given_cons (h : Handler β) (event : Event β) (events : List (Event β)) :
    given (h.deeds (event :: events)) =
      ((h.step event).1.bind givenBy).toList ++ given ((h.step event).2.deeds events) := by
  rcases hdeed : (h.step event).1 with _ | deed
  · simp [given, deeds, hdeed]
  · rw [deeds_cons_of_some hdeed]
    cases hnumber : givenBy deed <;> simp [given, hnumber]

/-- Numbers are given one after the other. -/
theorem given_eq_range' (h : Handler β) (events : List (Event β)) :
    ∃ count, given (h.deeds events) = List.range' (h.pages.opened + 1) count := by
  induction events generalizing h with
  | nil => exact ⟨0, rfl⟩
  | cons event events ih =>
      rcases ih (h.step event).2 with ⟨count, hrest⟩
      rw [given_cons, hrest]
      rcases number_step h event with ⟨hnumber, hopened⟩ | ⟨hnumber, hopened⟩
      · exact ⟨count + 1, by simp [hnumber, hopened, List.range'_succ]⟩
      · exact ⟨count, by simp [hnumber, hopened]⟩

theorem given_nodup (h : Handler β) (events : List (Event β)) : (given (h.deeds events)).Nodup := by
  rcases given_eq_range' h events with ⟨count, hgiven⟩
  rw [hgiven]
  exact List.nodup_range'

theorem given_append (h : Handler β) (first rest : List (Event β)) :
    given (h.deeds (first ++ rest)) =
      given (h.deeds first) ++ given ((h.run first).deeds rest) := by
  rw [deeds_append, given, List.filterMap_append]
  rfl

/-- A page that is opened after a number of events gets its number after them. -/
theorem Opening.mem_given {first last : List (Event β)} {id number : Nat} {w : Window β}
    (hopening : Opening (first ++ last) id number w) (hlast : last ≠ []) :
    number ∈ given ((start.run first).deeds last) := by
  rcases hopening with ⟨before, hbefore, -, hanswer⟩
  rcases List.eq_nil_or_concat last with rfl | ⟨last, event, rfl⟩
  · exact absurd rfl hlast
  · rw [List.concat_eq_append, ← List.append_assoc] at hbefore
    rcases List.append_inj' hbefore rfl with ⟨rfl, hevent⟩
    rw [List.singleton_inj.1 hevent, List.concat_eq_append, deeds_append, ← run_append]
    simp [given, deeds, hanswer, givenBy]

/-- Once it has been told to close a page, the driver has no page of that number, unless the number
is given for the first time afterwards. -/
theorem not_open_of_closed {id number : Nat} {since : List (Event β)}
    (hnumber : number ∈ given (start.deeds past) ∨
      number ∉ given ((start.run (past ++ [.told id (.close number)])).deeds since)) (w : Window β) :
    ¬ Open (past ++ .told id (.close number) :: since) number w := by
  rintro ⟨opening, opener, later, hpast, hopening, hlater⟩
  rcases List.append_eq_append_iff.1 hpast with ⟨middle, rfl, hsince⟩ | ⟨middle, -, rfl⟩
  · rcases List.cons_eq_append_iff.1 hsince with ⟨-, rfl⟩ | ⟨middle, rfl, rfl⟩
    · exact hlater id List.mem_cons_self
    · -- The page is opened after the command to close it.
      rw [← List.singleton_append, ← List.append_assoc] at hopening
      have hmiddle : middle ≠ [] := by
        rintro rfl
        rw [List.append_nil, opening_concat_iff] at hopening
        cases hopening.1
      have hgiven := hopening.mem_given hmiddle
      rcases hnumber with hold | hnew
      · have hnodup := given_nodup start (past ++ [.told id (.close number)] ++ middle)
        rw [given_append, given_append, List.nodup_append] at hnodup
        exact hnodup.2.2 number (List.mem_append_left _ hold) number hgiven rfl
      · rw [given_append] at hnew
        exact hnew (List.mem_append_left _ hgiven)
  · exact hlater id List.mem_append_cons_self

/-! ## The laws of the driver -/

/-- Commands of distinct requests come in any order, and the browser is done with its tasks in any
order, well or badly.  What a command to close a page leads to is said of numbers that were given
before it, or never after it: a page that is opened later may get the number of one that was closed
too early. -/
theorem commands_find_their_pages (hrequests : (requests events).Nodup) :
    let h := start.run events
    let deeds := start.deeds events
    -- No number is given to two pages.
    (given deeds).Nodup ∧
      -- The table holds the pages that were opened and not closed since, and no others.
      (∀ number w, h.pages.find? number = some w ↔ Open events number w) ∧
      (∀ number, number ∈ h.pages.numbers ↔ ∃ w, Open events number w) ∧
      -- A command about an open page is about this page alone.
      (∀ number w, Open events number w → ∀ id,
        (∀ url, (h.handle id (.goto number url)).1 = .asks (.goto w.page url)) ∧
        (∀ input, (h.handle id (.measure number input)).1 = .asks (.measure w.page input)) ∧
        (h.handle id (.close number)).1 = .asks (.closeContext w.context)) ∧
      -- After the command to close a page, every command about it is answered at once.
      (∀ past closer number since, events = past ++ .told closer (.close number) :: since →
        number ∈ given (start.deeds past) ∨
          number ∉ given ((start.run (past ++ [.told closer (.close number)])).deeds since) →
        ∀ id, (∀ url, h.handle id (.goto number url) = (.answers (unknownPage number), h)) ∧
          (∀ input, h.handle id (.measure number input) = (.answers (unknownPage number), h)) ∧
          h.handle id (.close number) = (.answers .done, h)) ∧
      -- What the browser is asked for, and what is answered, comes of the request's own command.
      (∀ id task, (id, .asks task) ∈ deeds → Due events id task) ∧
      (∀ id answer, (id, .answers answer) ∈ deeds → Fair events id answer) ∧
      -- Nothing is done about a request after its answer, and none is forgotten.
      (∀ before id answer after, deeds = before ++ (id, .answers answer) :: after →
        ∀ deed ∈ after, deed.1 ≠ id) ∧
      ∀ id ∈ requests events, (∃ answer, (id, .answers answer) ∈ deeds) ∨ ¬ h.Idle id := by
  intro h deeds
  refine ⟨given_nodup _ _, find?_run_iff events, mem_numbers_run_iff events, ?_, ?_, ?_, ?_, ?_, ?_⟩
  · intro number w hopen id
    have hfound : h.pages.find? number = some w := (find?_run_iff _ _ _).2 hopen
    simp [handle, hfound]
  · rintro past closer number since hevents hnumber id
    have hnone : h.pages.find? number = none := by
      refine (find?_run_eq_none_iff _ _).2 ?_
      rw [hevents]
      exact not_open_of_closed hnumber
    simp [handle, hnone]
  · exact fun id task hin => called_of_mem_deeds hin
  · exact fun id answer hin => called_of_mem_deeds hin
  · exact fun before id answer after hdeeds => answered_once hrequests hdeeds
  · exact fun id hin => served_run hin

/-- The first page is closed before there is one; then it is opened and gone to. -/
def premature : List (Event String) :=
  [.told 1 (.close 1), .told 2 (.openPage ⟨"phone", 375, 667⟩), .settled 2 (.gave "context"),
    .settled 2 (.gave "page"), .told 3 (.goto 1 "/")]

/-- A command to close a page is forgotten if it comes before the page, so that not every later
command about the number is refused. -/
theorem early_close_is_forgotten :
    (requests premature).Nodup ∧
      start.deeds premature =
        [(1, .answers .done), (2, .asks (.newContext 375 667)), (2, .asks (.newPage "context")),
          (2, .answers (.opened 1)), (3, .asks (.goto "page" "/"))] ∧
      ¬ ∀ events : List (Event String), (requests events).Nodup →
        ∀ past closer number since, events = past ++ .told closer (.close number) :: since →
          ∀ id url, (start.run events).handle id (.goto number url) =
            (.answers (unknownPage number), start.run events) := by
  refine ⟨by decide, rfl, fun hrefused => ?_⟩
  -- Up to the last command, which finds the page.
  have hgoto := hrefused (premature.take 4) (by decide) [] 1 1 (premature.tail.take 3) rfl 3 "/"
  cases congrArg Prod.fst hgoto

/-- Two pages are opened at once.  The second request is served first; its page is gone to, and then
closed, which fails. -/
def overlapping : List (Event String) :=
  [.told 1 (.openPage ⟨"phone", 375, 667⟩), .told 2 (.openPage ⟨"desk", 1280, 800⟩),
    .settled 2 (.gave "context B"), .settled 1 (.gave "context A"),
    .settled 2 (.gave "page B"), .settled 1 (.gave "page A"),
    .told 3 (.goto 1 "/"), .told 4 (.close 1), .settled 4 (.failed "crashed"),
    .told 5 (.goto 1 "/"), .settled 3 .done, .told 6 (.close 1)]

theorem overlapping_pages_are_found :
    (requests overlapping).Nodup ∧
      start.deeds overlapping =
        [(1, .asks (.newContext 375 667)), (2, .asks (.newContext 1280 800)),
          (2, .asks (.newPage "context B")), (1, .asks (.newPage "context A")),
          (2, .answers (.opened 1)), (1, .answers (.opened 2)),
          (3, .asks (.goto "page B" "/")), (4, .asks (.closeContext "context B")),
          (4, .answers (.failed "crashed")), (5, .answers (unknownPage 1)),
          (3, .answers .done), (6, .answers .done)] ∧
      Open overlapping 2 ⟨"context A", "page A"⟩ ∧ (∀ w, ¬ Open overlapping 1 w) ∧
      ∀ id input, (start.run overlapping).handle id (.measure 1 input) =
        (.answers (unknownPage 1), start.run overlapping) := by
  have hrequests : (requests overlapping).Nodup := by decide
  rcases commands_find_their_pages hrequests with ⟨-, htable, -, -, hclosed, -⟩
  refine ⟨hrequests, rfl, (htable 2 _).1 rfl, ?_, ?_⟩
  · intro w hopen
    exact nomatch (htable 1 w).2 hopen
  · intro id input
    -- The fourth command closes the page.
    exact (hclosed (overlapping.take 7) 4 1 (overlapping.drop 8) rfl (.inl (by decide)) id).2.1 input

end Handler
end Host
end LayoutAudit
