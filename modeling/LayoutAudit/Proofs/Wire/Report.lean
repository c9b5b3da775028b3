import LayoutAudit.Report
import LayoutAudit.Proofs.Json.Layout
import LayoutAudit.Proofs.Wire.RoundTrip

/-!
# Proofs.Wire.Report — reports are read back

A report is written with two fields that may be absent.  A tag is a text, and a text is never
`null`; the details of a violation may be any value.  Details that are absent are not written, and
`null` is read as absent, so that details that are `null` are written and not read back.

* `Json.Value.Orderly` — objects as they are held in memory, sorted by name at every level;
* `Violation.withoutNull`, `Report.withoutNulls` — details that are `null` count as absent;
* `Report.encode_readsAs`, `Report.decode_encode_iff` — which reports are read back;
* `Report.Legible`, `Report.read_write` — either text of a report holds what was encoded;
* `Report.read_back` — all of it.
-/

namespace LayoutAudit

open Json (Value)
open Wire (Node)
open Json.Value (Fill SortedByName readsAs_float readsAs_list_map readsAs_text)

/-! ## Payloads -/

namespace Json
namespace Value

/-- The members of all objects are sorted by name, and so have names of their own. -/
inductive Orderly : Value → Prop where
  | null : Orderly .null
  | bool (b : Bool) : Orderly (.bool b)
  | number (n : Number) : Orderly (.number n)
  | string (s : String) : Orderly (.string s)
  | array {items : List Value} : (∀ v ∈ items, Orderly v) → Orderly (.array items)
  | object {members : List (String × Value)} :
      SortedByName members → (∀ m ∈ members, Orderly m.2) → Orderly (.object members)

theorem toValues_of_same {items items' : List Value} (hsame : List.Forall₂ Same items items')
    (h : ∀ v ∈ items, v.ReadsAs Node.toValue v) :
    Node.toValues (Node.ofValues items') = .ok items := by
  induction hsame with
  | nil => rfl
  | cons hfirst _ ih =>
      rcases List.forall_mem_cons.1 h with ⟨hv, hrest⟩
      simp only [Node.ofValues, Node.toValues, hv _ hfirst, ih hrest]
      rfl

theorem toMembers_of_forall₂ {members entries : List (String × Value)}
    (h : List.Forall₂ (fun m e => m.1 = e.1 ∧ Node.toValue (.ofValue m.2) = .ok e.2)
      members entries) :
    Node.toMembers (Node.ofMembers members) = .ok entries := by
  induction h with
  | nil => rfl
  | cons hfirst _ ih =>
      simp only [Node.ofMembers, Node.toMembers, hfirst.1, hfirst.2, ih]
      rfl

/-- Data is read as it is held in memory, in whatever order its members come. -/
theorem Orderly.readsAs {v : Value} (h : v.Orderly) : v.ReadsAs Node.toValue v := by
  induction h with
  | null =>
      rintro w ⟨⟩
      rfl
  | bool b =>
      rintro w ⟨⟩
      rfl
  | number n =>
      rintro w ⟨⟩
      rfl
  | string s =>
      rintro w ⟨⟩
      rfl
  | array _ ih =>
      intro w hw
      cases hw with
      | array hsame =>
          simp only [Node.ofValue, Node.toValue, toValues_of_same hsame ih]
          rfl
  | @object members hsorted _ ih =>
      intro w hw
      rcases hw.object_cases with ⟨members', rfl, inPlace, hsame, hperm⟩
      have hread : List.Forall₂ (fun m e => m.1 = e.1 ∧ Node.toValue (.ofValue m.2) = .ok e.2)
          inPlace members :=
        (((List.forall₂_and_left members inPlace).2 ⟨ih, hsame⟩).imp fun e m hm =>
          ⟨hm.2.1.symm, hm.1 m.2 hm.2.2⟩).flip
      -- The members are read in the order in which they come, and sorted afterwards.
      rcases List.perm_comp_forall₂ hperm.symm hread with ⟨found, hfound, hback⟩
      simp only [Node.ofValue, Node.toValue, toMembers_of_forall₂ hfound]
      exact congrArg (Except.ok ∘ Value.object) (sorted_eq_of_perm hsorted hback)

/-! ### Payloads that are built -/

mutual
theorem orderly_orderly : (v : Value) → (orderly v).Orderly
  | .null => .null
  | .bool b => .bool b
  | .number n => .number n
  | .string s => .string s
  | .array items => .array (orderlyItems_orderly items)
  | .object members =>
      .object (sortedByName_sorted _) fun m hm =>
        orderlyMembers_orderly members m (mem_of_mem_sorted hm)

theorem orderlyItems_orderly : (items : List Value) → ∀ v ∈ orderlyItems items, v.Orderly
  | [], _, hv => absurd hv List.not_mem_nil
  | first :: rest, v, hv => by
      rcases List.mem_cons.1 hv with rfl | hv
      · exact orderly_orderly first
      · exact orderlyItems_orderly rest v hv

theorem orderlyMembers_orderly : (members : List (String × Value)) →
    ∀ m ∈ orderlyMembers members, m.2.Orderly
  | [], _, hm => absurd hm List.not_mem_nil
  | (k, first) :: rest, m, hm => by
      rcases List.mem_cons.1 hm with rfl | hm
      · exact orderly_orderly first
      · exact orderlyMembers_orderly rest m hm
end

end Value
end Json

/-! ## Violations -/

namespace Violation

/-- The violation, with details that are `null` taken for none. -/
def withoutNull (v : Violation) : Violation :=
  match v.details with
  | some .null => { v with details := none }
  | _ => v

/-- Its details are a value as it is held in memory. -/
def IsOrderly (v : Violation) : Prop := ∀ d, v.details = some d → d.Orderly

theorem withoutNull_eq_iff {v : Violation} : v.withoutNull = v ↔ v.details ≠ some .null := by
  rcases v with ⟨path, message, details⟩
  unfold withoutNull
  split
  · simp_all
  · simp_all

/-- Whatever a violation is given as details, it holds them in order, and they are not `null`. -/
theorem detailed_isOrderly (path message : String) (details : List (String × Value)) :
    (detailed path message details).IsOrderly ∧
      (detailed path message details).withoutNull = detailed path message details := by
  constructor
  · rintro _ ⟨⟩
    exact Json.Value.orderly_orderly _
  · rfl

theorem encode_readsAs {v : Violation} (h : v.IsOrderly) :
    v.encode.ReadsAs Violation.decode v.withoutNull := by
  rcases v with ⟨path, message, details⟩
  have hfields {members : List (String × Value)} {read : Option Value}
      (hpath : ("constraint", .string path) ∈ members)
      (hmessage : ("message", .string message) ∈ members)
      (hdetails : Fill members (.optional "details" (Node.asOption Node.toValue) none) read) :
      Fill members fields ⟨path, message, read⟩ := by
    refine .map (a := (path, message, read)) ?_ rfl
    exact .and (by decide) (.given hpath (readsAs_text path)) <|
      .and (by decide) (.given hmessage (readsAs_text message)) hdetails
  unfold encode
  cases details with
  | none => exact (hfields (by simp) (by simp) (.omitted (by simp))).readsAs (by simp)
  | some d =>
      by_cases hnull : d = .null
      · subst hnull
        have hread : Value.null.ReadsAs (Node.asOption Node.toValue) none := by
          rintro w ⟨⟩
          rfl
        exact (hfields (by simp) (by simp) (.given (by simp) hread)).readsAs (by simp)
      · have hread := (h d rfl).readsAs.some hnull
        have hkept : withoutNull ⟨path, message, some d⟩ = ⟨path, message, some d⟩ :=
          withoutNull_eq_iff.2 (by simpa using hnull)
        rw [hkept]
        exact (hfields (by simp) (by simp) (.given (by simp) hread)).readsAs (by simp)

end Violation

/-! ## Reports -/

namespace ViewSize

def IsFinite (s : ViewSize) : Prop := s.width.isFinite ∧ s.height.isFinite

theorem encode_readsAs {s : ViewSize} (h : s.IsFinite) : s.encode.ReadsAs ViewSize.decode s := by
  refine Fill.readsAs ?_ (by simp)
  refine .map (a := (s.width, s.height)) ?_ rfl
  exact .and (by decide) (.given (by simp) (readsAs_float h.1)) <|
    .given (by simp) (readsAs_float h.2)

end ViewSize

namespace Report

/-- The report, with details that are `null` taken for none. -/
def withoutNulls (r : Report) : Report :=
  { r with violations := r.violations.map Violation.withoutNull }

theorem encode_readsAs {r : Report} (hview : r.viewSize.IsFinite)
    (hdetails : ∀ v ∈ r.violations, v.IsOrderly) :
    r.encode.ReadsAs Report.decode r.withoutNulls := by
  rcases r with ⟨scenario, snapshot, viewTag, viewSize, viewportClass, violations⟩
  have hviolations := readsAs_list_map fun v hv => Violation.encode_readsAs (hdetails v hv)
  have hfields {members : List (String × Value)} {tag : Option String}
      (h1 : ("scenarioName", .string scenario) ∈ members)
      (h2 : ("snapshotName", .string snapshot) ∈ members)
      (h4 : ("viewSize", viewSize.encode) ∈ members)
      (h5 : ("viewportClass", viewportClass.encode) ∈ members)
      (h6 : ("violations", .array (violations.map Violation.encode)) ∈ members)
      (htag : Fill members (.optional "viewTag" (Node.asOption Node.asText) none) tag) :
      Fill members fields ⟨scenario, snapshot, tag, viewSize, viewportClass,
        violations.map Violation.withoutNull⟩ := by
    refine .map (a := (scenario, snapshot, tag, viewSize, viewportClass,
      violations.map Violation.withoutNull)) ?_ rfl
    exact .and (by decide) (.given h1 (readsAs_text scenario)) <|
      .and (by decide) (.given h2 (readsAs_text snapshot)) <|
      .and (by decide) htag <|
      .and (by decide) (.given h4 (ViewSize.encode_readsAs hview)) <|
      .and (by decide) (.given h5 (ViewportClass.encode_readsAs viewportClass)) <|
      .given h6 hviolations
  unfold encode withoutNulls
  cases viewTag with
  | none =>
      exact (hfields (by simp) (by simp) (by simp) (by simp) (by simp)
        (.omitted (by simp))).readsAs (by simp)
  | some tag =>
      have hread := (readsAs_text tag).some (by simp)
      exact (hfields (by simp) (by simp) (by simp) (by simp) (by simp)
        (.given (by simp) hread)).readsAs (by simp)

theorem withoutNulls_eq_iff {r : Report} :
    r.withoutNulls = r ↔ ∀ v ∈ r.violations, v.details ≠ some .null := by
  have hviolations : r.withoutNulls = r ↔ r.violations.map Violation.withoutNull = r.violations :=
    ⟨fun h => congrArg violations h, fun h => congrArg (fun vs => { r with violations := vs }) h⟩
  have hmap : r.violations.map Violation.withoutNull = r.violations ↔
      ∀ v ∈ r.violations, v.withoutNull = id v := by
    rw [← List.map_inj_left, List.map_id]
  rw [hviolations, hmap]
  exact forall₂_congr fun v _ => Violation.withoutNull_eq_iff

/-- A report is read back unless the details of a violation are `null`. -/
theorem decode_encode_iff {r : Report} (hview : r.viewSize.IsFinite)
    (hdetails : ∀ v ∈ r.violations, v.IsOrderly) :
    Report.decode (.ofValue r.encode) = .ok r ↔ ∀ v ∈ r.violations, v.details ≠ some .null := by
  rw [encode_readsAs hview hdetails _ (.refl _), Except.ok.injEq]
  exact withoutNulls_eq_iff

/-! ## Texts -/

/-- The numbers of a report are read back from their texts, and its details are nested no deeper
than is read inside a report. -/
structure Legible (r : Report) : Prop where
  width : (Json.Number.real r.viewSize.width).ReadsBack
  height : (Json.Number.real r.viewSize.height).ReadsBack
  details : ∀ v ∈ r.violations, ∀ d, v.details = some d → Json.Readable (Json.depthLimit - 3) d

theorem readable_float {x : Float} (hx : x.isFinite) (h : (Json.Number.real x).ReadsBack)
    (limit : Nat) : Json.Readable limit (.float x) := by
  rw [Json.Value.float, if_pos hx]
  exact .number limit h

theorem readable_violation {v : Violation} {limit : Nat}
    (h : ∀ d, v.details = some d → Json.Readable limit d) :
    Json.Readable (limit + 1) v.encode := by
  rcases v with ⟨path, message, details⟩
  refine .object (List.forall_mem_append.2 ⟨?_, ?_⟩)
  · exact List.forall_mem_cons.2 ⟨.string limit path,
      List.forall_mem_singleton.2 (.string limit message)⟩
  · cases details with
    | none => exact List.forall_mem_nil _
    | some d => exact List.forall_mem_singleton.2 (h d rfl)

theorem Legible.readable {r : Report} (hview : r.viewSize.IsFinite) (h : r.Legible) :
    Json.Readable Json.depthLimit r.encode := by
  rcases r with ⟨scenario, snapshot, viewTag, viewSize, viewportClass, violations⟩
  have hsize : Json.Readable (Json.depthLimit - 1) viewSize.encode :=
    .object (List.forall_mem_cons.2 ⟨readable_float hview.1 h.width _,
      List.forall_mem_singleton.2 (readable_float hview.2 h.height _)⟩)
  have hviolations : Json.Readable (Json.depthLimit - 1)
      (.array (violations.map Violation.encode)) := by
    refine .array fun w hw => ?_
    rcases List.mem_map.1 hw with ⟨v, hv, rfl⟩
    exact readable_violation (h.details v hv)
  refine .object (List.forall_mem_append.2 ⟨List.forall_mem_append.2 ⟨?_, ?_⟩, ?_⟩)
  · exact List.forall_mem_cons.2 ⟨.string _ scenario,
      List.forall_mem_singleton.2 (.string _ snapshot)⟩
  · cases viewTag with
    | none => exact List.forall_mem_nil _
    | some tag => exact List.forall_mem_singleton.2 (.string _ tag)
  · exact List.forall_mem_cons.2 ⟨hsize, List.forall_mem_cons.2 ⟨.string _ viewportClass.name,
      List.forall_mem_singleton.2 hviolations⟩⟩

/-- Either text of a report holds what was encoded. -/
theorem read_write {r : Report} (hview : r.viewSize.IsFinite) (h : r.Legible) (pretty : Bool) :
    Json.Document.read (r.write pretty) = ⟨.ofValue r.encode, none⟩ :=
  Json.Document.read_printed (h.readable hview) pretty

/-- A report with finite sizes is read back, in whatever order its members come and whatever its
texts and details are, except that details that are `null` are read as absent: the report itself is
read exactly if there are none such.  Both texts of a report, spread over lines or not, hold what was
encoded, as long as its numbers are read back from their own texts. -/
theorem read_back (r : Report) (hview : r.viewSize.IsFinite)
    (hdetails : ∀ v ∈ r.violations, v.IsOrderly) :
    r.encode.ReadsAs Report.decode r.withoutNulls ∧
      (Report.decode (.ofValue r.encode) = .ok r ↔
        ∀ v ∈ r.violations, v.details ≠ some .null) ∧
      (r.Legible → ∀ pretty,
        Json.Document.read (r.write pretty) = ⟨.ofValue r.encode, none⟩ ∧
          (Json.Document.read (r.write pretty)).decode Report.decode = .ok r.withoutNulls) := by
  have hreads := encode_readsAs hview hdetails
  refine ⟨hreads, decode_encode_iff hview hdetails, fun hlegible pretty => ?_⟩
  have hdocument := read_write hview hlegible pretty
  refine ⟨hdocument, ?_⟩
  rw [hdocument, Json.Document.decode, hreads _ (.refl _)]
  rfl

/-- A report with a tag and two violations, one of them with details. -/
def sample : Report where
  scenario := "home"
  snapshot := "hero"
  viewTag := some "mobile"
  viewSize := ⟨375.0, 812.5⟩
  viewportClass := .mobile
  violations := [.detailed "below" "too far" [("gap", .float 30.0), ("at", .array [.nat 2, .null])],
    .plain "visible" "hidden"]

/-- It is read back from its data and from either text. -/
theorem sample_read_back :
    Report.decode (.ofValue sample.encode) = .ok sample ∧
      ∀ pretty, (Json.Document.read (sample.write pretty)).decode Report.decode = .ok sample := by
  have hview : sample.viewSize.IsFinite := by
    simp only [sample, ViewSize.IsFinite]
    decide
  have hdetails : ∀ v ∈ sample.violations, v.IsOrderly := by
    simp only [sample, List.forall_mem_cons]
    refine ⟨(Violation.detailed_isOrderly _ _ _).1, ?_, by simp⟩
    rintro _ ⟨⟩
  have hwithout : ∀ v ∈ sample.violations, v.details ≠ some .null := by
    simp [sample, Violation.detailed, Violation.plain, orderly]
  have hreal {x : Float} (text : String) (htext : (Json.Number.real x).write = text)
      (hsign : text.toList.head? ≠ some '-')
      (hread : Json.Numeral.read false text.toList = (.number (.real x), some [])) :
      (Json.Number.real x).ReadsBack := by
    subst htext
    exact Json.Number.readsBack_of_unsigned hsign hread
  have hlegible : sample.Legible := by
    refine ⟨hreal "375.0" (by decide +kernel) (by decide) rfl,
      hreal "812.5" (by decide +kernel) (by decide) rfl, ?_⟩
    intro v hv d hd
    rcases List.mem_cons.1 hv with rfl | hv
    · have hsorted : d = .object [("at", .array [.nat 2, .null]), ("gap", .float 30.0)] :=
        (Option.some.inj hd).symm
      rw [hsorted]
      refine .object fun m hm => ?_
      simp only [List.mem_cons, List.not_mem_nil, or_false] at hm
      rcases hm with rfl | rfl
      · refine .array fun w hw => ?_
        simp only [List.mem_cons, List.not_mem_nil, or_false] at hw
        rcases hw with rfl | rfl
        · exact .number _ (Json.Number.readsBack_integer (by decide) (by decide))
        · exact .null _
      · exact readable_float (by decide) (hreal "30.0" (by decide +kernel) (by decide) rfl) _
    · rw [List.mem_singleton.1 hv] at hd
      cases hd
  rcases read_back sample hview hdetails with ⟨-, hiff, htexts⟩
  refine ⟨hiff.2 hwithout, fun pretty => ?_⟩
  rw [(htexts hlegible pretty).2, withoutNulls_eq_iff.2 hwithout]

/-- Details that are `null` are written, and read as if there were none. -/
theorem null_details_lost :
    let r : Report := ⟨"home", "hero", none, ⟨375.0, 812.0⟩, .mobile, [⟨"own", "m", some .null⟩]⟩
    r.viewSize.IsFinite ∧ (∀ v ∈ r.violations, v.IsOrderly) ∧
      r.encode.member? "violations" = some (.array [.object [("constraint", .string "own"),
        ("message", .string "m"), ("details", .null)]]) ∧
      Report.decode (.ofValue r.encode) = .ok { r with violations := [.plain "own" "m"] } ∧
      Report.decode (.ofValue r.encode) ≠ .ok r := by
  intro r
  have hview : r.viewSize.IsFinite := by
    simp only [r, ViewSize.IsFinite]
    decide
  have hdetails : ∀ v ∈ r.violations, v.IsOrderly := by
    simp only [r, List.forall_mem_cons]
    refine ⟨?_, by simp⟩
    rintro _ ⟨⟩
    exact .null
  have hread := encode_readsAs hview hdetails _ (.refl _)
  refine ⟨hview, hdetails, rfl, hread, ?_⟩
  rw [hread]
  intro heq
  have hsame := withoutNulls_eq_iff.1 (Except.ok.inj heq) _ List.mem_cons_self
  exact hsame rfl

end Report
end LayoutAudit
