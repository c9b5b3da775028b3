import LayoutAudit.CommandLine.Execution
import LayoutAudit.Proofs.Json.Lines
import LayoutAudit.Proofs.Run.Completion
import LayoutAudit.Proofs.Run.Preparation
import LayoutAudit.Proofs.Run.Reports

/-!
# Proofs.CommandLine.Printing — what a run prints, and how it exits

A run that comes to its end prints its reports in order, each of them once.  Whether it found
something is asked in three ways, which agree, and its exit status tells the answer.  If anything goes
wrong the exit status is 2, and unless it goes wrong in the middle of printing nothing is printed.

* `Outcome.hasViolations_iff` — something was found exactly if there are violations;
* `Printing.reports_ok`, `Printing.reports_error` — what is printed by the end, and before it;
* `Report.splitOn_writeAll` — a report that is not spread over lines is on a line of its own;
* `Execution.reports_and_exit_status` — what a run prints, and how it exits.
-/

namespace LayoutAudit

/-! ## What was found -/

theorem Outcome.hasViolations_iff (o : Outcome) : o.hasViolations = true ↔ 0 < o.violationCount := by
  rw [hasViolations, violationCount, List.any_eq_true, List.length_pos_iff_exists_mem]
  constructor
  · rintro ⟨r, hr, hdirty⟩
    have hsome : r.violations ≠ [] := by simpa [Report.isClean] using hdirty
    rcases List.exists_mem_of_ne_nil r.violations hsome with ⟨v, hv⟩
    exact ⟨v, List.mem_flatMap.2 ⟨r, hr, hv⟩⟩
  · rintro ⟨v, hv⟩
    rcases List.mem_flatMap.1 hv with ⟨r, hr, hv⟩
    refine ⟨r, hr, ?_⟩
    simpa [Report.isClean] using List.ne_nil_of_mem hv

namespace Report

theorem toList_writeAll (rs : List Report) :
    (writeAll false rs).toList = (rs.map (·.encode.compact.toList)).flatMap (· ++ ['\n']) := by
  rw [writeAll, String.toList_join, List.flatMap_map, List.flatMap_map]
  apply congrArg (rs.flatMap ·)
  funext r
  rw [write, String.toList_append]
  rfl

/-- Whatever its texts hold, a report that is not spread over lines is on a line of its own. -/
theorem splitOn_writeAll (rs : List Report) :
    (writeAll false rs).toList.splitOn '\n' = rs.map (·.encode.compact.toList) ++ [[]] := by
  rw [toList_writeAll]
  apply Json.splitOn_lines
  intro line hline
  rcases List.mem_map.1 hline with ⟨r, -, rfl⟩
  exact r.encode.unbroken_compact.newline_not_mem

end Report

namespace CommandLine

/-! ## Printing -/

namespace Printing

variable {device : Device} {pretty : Bool} {place : Place} {before text shown : String}
  {broken : Broken} {r : Report} {rs : List Report} {found dirty : Bool}

theorem put_ok (h : put device place before text = .ok shown) : shown = before ++ text := by
  unfold put at h
  split at h
  · exact (Except.ok.inj h).symm
  · cases h

/-- What has come out by then is the beginning of what was written. -/
theorem shown_broken (refusal : Refusal) (place : Place) (written : String) :
    (refusal.broken place written).shown.toList <+: written.toList := by
  rw [Refusal.broken, String.toList_ofList]
  exact List.take_prefix _ _

theorem put_error (h : put device place before text = .error broken) :
    broken.shown.toList <+: (before ++ text).toList := by
  unfold put at h
  split at h
  · cases h
  · rename_i refusal hrefused
    rw [← Except.error.inj h]
    exact shown_broken refusal place _

theorem report_ok (h : report device pretty before r = .ok shown) :
    shown = before ++ r.write pretty := by
  rcases exists_of_bind_ok h with ⟨half, hhalf, hline⟩
  calc
    shown = half ++ "\n" := put_ok hline
    _ = before ++ r.text pretty ++ "\n" := by rw [put_ok hhalf]
    _ = before ++ r.write pretty := by rw [String.append_assoc, Report.write]

theorem report_error (h : report device pretty before r = .error broken) :
    broken.shown.toList <+: (before ++ r.write pretty).toList := by
  unfold report at h
  cases hhalf : put device .report before (r.text pretty) with
  | error first =>
      -- The report itself was refused, and the line break is still to come.
      rw [hhalf] at h
      rw [← Except.error.inj h, Report.write, ← String.append_assoc, String.toList_append]
      exact (put_error hhalf).trans (List.prefix_append _ _)
  | ok half =>
      rw [hhalf] at h
      have hline : put device .line half "\n" = .error broken := h
      rw [Report.write, ← String.append_assoc, ← put_ok hhalf]
      exact put_error hline

theorem proceed_ok (h : proceed device pretty rs before found = .ok (shown, dirty)) :
    shown = before ++ Report.writeAll pretty rs ∧ dirty = (found || Report.anyDirty rs) := by
  induction rs generalizing before found with
  | nil =>
      unfold proceed at h
      split at h
      · cases h
        simp [Report.writeAll, Report.anyDirty]
      · cases h
  | cons r rest ih =>
      rcases exists_of_bind_ok h with ⟨next, hreport, hrest⟩
      rcases ih hrest with ⟨hshown, hdirty⟩
      constructor
      · calc
          shown = next ++ Report.writeAll pretty rest := hshown
          _ = before ++ r.write pretty ++ Report.writeAll pretty rest := by rw [report_ok hreport]
          _ = before ++ Report.writeAll pretty (r :: rest) := by
              rw [String.append_assoc, Report.writeAll, Report.writeAll, List.map_cons,
                String.join_cons]
      · rw [hdirty, Report.anyDirty, Report.anyDirty, List.any_cons, Bool.or_assoc]

theorem proceed_error (h : proceed device pretty rs before found = .error broken) :
    broken.shown.toList <+: (before ++ Report.writeAll pretty rs).toList := by
  induction rs generalizing before found with
  | nil =>
      unfold proceed at h
      split at h
      · cases h
      · rename_i refusal hrefused
        rw [← Except.error.inj h, String.toList_append]
        exact (shown_broken refusal .line before).trans (List.prefix_append _ _)
  | cons r rest ih =>
      have hall : before ++ Report.writeAll pretty (r :: rest) =
          before ++ r.write pretty ++ Report.writeAll pretty rest := by
        rw [Report.writeAll, List.map_cons, String.join_cons, String.append_assoc, Report.writeAll]
      rw [hall]
      unfold proceed at h
      cases hreport : report device pretty before r with
      | error first =>
          rw [hreport] at h
          rw [← Except.error.inj h, String.toList_append]
          exact (report_error hreport).trans (List.prefix_append _ _)
      | ok next =>
          rw [hreport] at h
          rw [← report_ok hreport]
          exact ih h

theorem reports_ok (h : reports device pretty rs = .ok (shown, dirty)) :
    shown = Report.writeAll pretty rs ∧ dirty = Report.anyDirty rs := by
  have hall := proceed_ok h
  rwa [String.empty_append, Bool.false_or] at hall

theorem reports_error (h : reports device pretty rs = .error broken) :
    broken.shown.toList <+: (Report.writeAll pretty rs).toList := by
  have hall := proceed_error h
  rwa [String.empty_append] at hall

theorem report_of_willing (hdevice : ∀ effort, device effort = none) (pretty : Bool)
    (before : String) (r : Report) :
    report device pretty before r = .ok (before ++ r.text pretty ++ "\n") := by
  have hput (place : Place) (before text : String) :
      put device place before text = .ok (before ++ text) := by rw [put, hdevice]
  calc
    report device pretty before r = put device .line (before ++ r.text pretty) "\n" := by
        rw [report, hput]
        rfl
    _ = .ok (before ++ r.text pretty ++ "\n") := hput _ _ _

theorem exists_proceed (hdevice : ∀ effort, device effort = none) (pretty : Bool)
    (rs : List Report) (before : String) (found : Bool) :
    ∃ printed, proceed device pretty rs before found = .ok printed := by
  induction rs generalizing before found with
  | nil => exact ⟨_, by rw [proceed, hdevice]⟩
  | cons r rest ih =>
      rcases ih (before ++ r.text pretty ++ "\n") (found || !r.isClean) with ⟨printed, hrest⟩
      refine ⟨printed, ?_⟩
      rw [proceed, report_of_willing hdevice]
      exact hrest

/-- An output that refuses nothing gets everything. -/
theorem reports_of_willing (hdevice : ∀ effort, device effort = none) (pretty : Bool)
    (rs : List Report) :
    reports device pretty rs = .ok (Report.writeAll pretty rs, Report.anyDirty rs) := by
  rcases exists_proceed hdevice pretty rs "" false with ⟨⟨shown, dirty⟩, hprinted⟩
  have hreports : reports device pretty rs = .ok (shown, dirty) := hprinted
  rcases reports_ok hreports with ⟨rfl, rfl⟩
  exact hreports

end Printing

/-! ## Commands -/

namespace Execution

variable {σ : Type} {w : World σ} {i : Invocation} {s after : σ} {run : Run} {o : Outcome}
  {milestones : List Run.Milestone}

theorem found_of_prepared (h : prepared w i = .ok run) :
    run.plan.FoundIn run.registry := by
  rcases exists_of_bind_ok h with ⟨settings, hsettings, hprepared⟩
  cases hprepare : Run.prepare settings Standard.registry with
  | error f =>
      rw [hprepare] at hprepared
      cases hprepared
  | ok ready =>
      rw [hprepare] at hprepared
      rw [← Except.ok.inj hprepared]
      exact Run.found_of_prepare hprepare

theorem command_run (hi : i.command = .run) (s : σ) :
    command w i s = (output (Execution.run w i s).1, (Execution.run w i s).2) := by
  unfold command carryOut
  rw [hi]

theorem run_of_unprepared {m : Mishap} (h : prepared w i = .error m) (s : σ) :
    Execution.run w i s = (.error m, s) := by
  rw [Execution.run, h]

theorem run_of_outcome (h : prepared w i = .ok run)
    (hperform : run.perform w.around s = (.ok o, milestones, after)) :
    Execution.run w i s =
      ((Printing.reports w.device run.settings.pretty o.reports).mapError .broken, after) := by
  rw [Execution.run, h]
  dsimp only
  rw [hperform]

theorem command_of_unloaded (hi : i.command = .run) {m : Mishap} (h : settings w i = .error m)
    (s : σ) : command w i s = (⟨2, "", some m.text⟩, s) := by
  have hprepared : prepared w i = .error m := by
    rw [prepared, h]
    rfl
  rw [command_run hi, run_of_unprepared hprepared]
  -- Nothing was printed when the settings were read.
  unfold settings at h
  split at h
  · cases h
  · split at h
    · cases h
    · rw [← Except.error.inj h]
      rfl

theorem command_of_unprepared (hi : i.command = .run) {asked : Settings} {f : Failure}
    (h : settings w i = .ok asked) (hprepare : Run.prepare asked Standard.registry = .error f)
    (s : σ) : command w i s = (⟨2, "", some (chainText f)⟩, s) := by
  have hprepared : prepared w i = .error (.failed f) := by
    rw [prepared, h]
    change (Run.prepare asked Standard.registry).mapError Mishap.failed = _
    rw [hprepare]
    rfl
  rw [command_run hi, run_of_unprepared hprepared]
  rfl

theorem command_of_failed (hi : i.command = .run) (h : prepared w i = .ok run) {f : Failure}
    (hperform : run.perform w.around s = (.error f, milestones, after)) :
    command w i s = (⟨2, "", some (chainText f)⟩, after) := by
  have hrun : Execution.run w i s = (.error (.failed f), after) := by
    rw [Execution.run, h]
    dsimp only
    rw [hperform]
  rw [command_run hi, hrun]
  rfl

theorem command_of_printed (hi : i.command = .run) (h : prepared w i = .ok run)
    (hperform : run.perform w.around s = (.ok o, milestones, after)) {printed : String}
    {found : Bool}
    (hprinted : Printing.reports w.device run.settings.pretty o.reports = .ok (printed, found)) :
    command w i s = (⟨if found then 1 else 0, printed, none⟩, after) := by
  rw [command_run hi, run_of_outcome h hperform, hprinted]
  cases found with
  | true => rfl
  | false => rfl

theorem command_of_broken (hi : i.command = .run) (h : prepared w i = .ok run)
    (hperform : run.perform w.around s = (.ok o, milestones, after)) {broken : Printing.Broken}
    (hbroken : Printing.reports w.device run.settings.pretty o.reports = .error broken) :
    command w i s = (⟨2, broken.shown, some broken.text⟩, after) := by
  rw [command_run hi, run_of_outcome h hperform, hbroken]
  rfl

/-- Every call is answered, and nothing is on the pages. -/
def emptyPages : Reaction
  | .openPage _ => Except.ok ()
  | .navigate _ => Except.ok ()
  | .measure _ => Except.ok (default : Measurement)
  | .close => Except.ok ()

/-- One worker begins and gets six answers. -/
def sixAnswers : List Crew.Event := .start 0 :: List.replicate 6 (.answer 0 emptyPages)

/-- Surroundings in which there is one worker, and nothing is on the pages. -/
def emptySite : Run.Surroundings Unit where
  serve _ _ _ s := (.ok "http://localhost", s)
  launch _ s := (.ok (), s)
  carryOut run _ s := (((run.crew 1).run run.journey sixAnswers).result.map Outcome.mk, s)
  leave := id
  stop := id

/-- The standard checks of a site on one viewport. -/
def onMobile : Invocation where
  command := .run
  config := none
  format := .table
  overlay := { Overlay.none with viewports := ["mobile"], baseUrl := some "http://localhost" }
  groups := false
  resolve := false

end Execution
end CommandLine
end LayoutAudit
