import LayoutAudit.Constraint

/-!
# Proofs.Relation.Presence — relations ask for their operands first

A relation that measures its operands, or reads their texts, says nothing about them unless all of
them are there.  Otherwise it says which are not, and that depends on their selectors alone.

* `Relation.Gated` — a finding that is about missing operands if there are any, and else is not;
* `Relation.gated_beside` and the like — each of these relations gives such a finding;
* `Constraint.measured?` — the operands of such a relation;
* `Constraint.gated_check` — checking it gives such a finding, whatever is looked up;
* `Constraint.presence_first` — what is reported about operands that are not there.
-/

namespace LayoutAudit

open Json (Value)

/-- The element that an operand stands for. -/
def Operand.denotes (find : ElementRef → Element) (around : Surroundings) : Operand → Element
  | element e => e
  | declared ref => find ref
  | enclosing level => around[level]?.getD .blank

@[simp] theorem Operand.answer_resolve (find : ElementRef → Element) (findAll : GroupRef → Group)
    (around : Surroundings) (a : Operand) :
    (a.resolve around).answer find findAll = a.denotes find around := by
  cases a <;> rfl

namespace Relation

variable {name path : String} {operands : List Element} {a b e : Element}

/-! ## The gate -/

theorem missing_ne_nil (hmissing : ∃ e ∈ operands, e.present = false) : missing operands ≠ [] := by
  rcases hmissing with ⟨e, he, habsent⟩
  have hmem : e ∈ operands.filter (!·.present) := List.mem_filter.2 ⟨he, by simp [habsent]⟩
  exact List.ne_nil_of_mem (List.mem_map_of_mem hmem)

theorem missing_eq_nil (hpresent : ∀ e ∈ operands, e.present = true) : missing operands = [] := by
  have hnone : operands.filter (!·.present) = [] :=
    List.filter_eq_nil_iff.2 fun e he => by simp [hpresent e he]
  rw [missing, hnone, List.map_nil]

theorem whenPresent_of_missing (hmissing : ∃ e ∈ operands, e.present = false)
    (result : List Violation) :
    whenPresent name operands result = [notFound name (missing operands)] := by
  cases hlist : missing operands with
  | nil => exact absurd hlist (missing_ne_nil hmissing)
  | cons selector rest => simp [whenPresent, hlist]

theorem whenPresent_of_present (hpresent : ∀ e ∈ operands, e.present = true)
    (result : List Violation) : whenPresent name operands result = result := by
  simp [whenPresent, missing_eq_nil hpresent]

theorem mem_require {holds : Bool} {v w : Violation} (hw : w ∈ require holds v) : w = v := by
  cases holds
  · simpa [require] using hw
  · simp [require] at hw

/-! ## Findings behind the gate -/

/-- The path of a violation about operands that are not there, whatever relation it is of. -/
def NamesPresence (path : String) : Prop := ∃ outer, path = outer ++ ".present"

theorem not_namesPresence (hpath : ".present".toList.isSuffixOf path.toList = false) :
    ¬ NamesPresence path := by
  rintro ⟨outer, rfl⟩
  have hsuffix : ".present".toList <:+ (outer ++ ".present").toList := by simp
  rw [← List.isSuffixOf_iff_suffix, hpath] at hsuffix
  exact Bool.false_ne_true hsuffix

/-- A finding is about the operands that are not there, if there are any, and else about none. -/
structure Gated (name : String) (operands : List Element) (found : List Violation) : Prop where
  of_missing : (∃ e ∈ operands, e.present = false) → found = [notFound name (missing operands)]
  of_present : (∀ e ∈ operands, e.present = true) → ∀ v ∈ found, ¬ NamesPresence v.path

theorem gated_whenPresent {result : List Violation}
    (hresult : ∀ v ∈ result, ¬ NamesPresence v.path) :
    Gated name operands (whenPresent name operands result) where
  of_missing := fun hmissing => whenPresent_of_missing hmissing result
  of_present := by
    intro hpresent v hv
    rw [whenPresent_of_present hpresent] at hv
    exact hresult v hv

/-- A relation that makes one test. -/
theorem gated_require {holds : Bool} {v : Violation} (hpath : ¬ NamesPresence v.path) :
    Gated name operands (whenPresent name operands (require holds v)) := by
  refine gated_whenPresent fun w hw => ?_
  rw [mem_require hw]
  exact hpath

/-! ## The relations -/

theorem gated_beside (side : Side) (range : Range) :
    Gated side.relation [a, b] (beside side range a b) := by
  have hpath : ¬ NamesPresence side.relation := by
    apply not_namesPresence
    cases side <;> decide
  exact gated_require hpath

theorem gated_near (sides : List (Side × Range)) : Gated "near" [a, b] (near sides a b) := by
  have hoverlap (side : Side) : ¬ NamesPresence ("near." ++ side.name ++ ".overlap") := by
    apply not_namesPresence
    cases side <;> decide
  have hgap (side : Side) : ¬ NamesPresence ("near." ++ side.name ++ ".gap") := by
    apply not_namesPresence
    cases side <;> decide
  refine gated_whenPresent fun v hv => ?_
  rcases List.mem_flatMap.1 hv with ⟨⟨side, range⟩, -, hside⟩
  by_cases hless : side.gap a b < 0.0
  · have hv' : v = overlapOn side a b := by simpa [nearOn, hless] using hside
    rw [hv']
    exact hoverlap side
  · have hv' : v = gapOn side range a b := by
      simp only [nearOn, hless] at hside
      exact mem_require hside
    rw [hv']
    exact hgap side

theorem gated_inside (edges : Edges) : Gated "inside" [a, b] (inside edges a b) := by
  have hpath (edge : Edge) : ¬ NamesPresence ("inside." ++ edge.name) := by
    apply not_namesPresence
    cases edge <;> decide
  refine gated_whenPresent fun v hv => ?_
  rcases List.mem_flatMap.1 hv with ⟨edge, -, hedge⟩
  rw [mem_require hedge]
  exact hpath edge

theorem gated_aligned (guide : Guide) (tolerance : Float) :
    Gated (alignedName guide) [a, b] (aligned guide tolerance a b) := by
  have hpath : ¬ NamesPresence (alignedName guide) := by
    apply not_namesPresence
    cases guide <;> decide
  exact gated_require hpath

theorem gated_centered (axis : Axis) (tolerance : Float) :
    Gated "centered_in" [a, b] (centered axis tolerance a b) := by
  have hpath : ∀ middle ∈ axis.middles, ¬ NamesPresence ("centered_in." ++ middle.1) := by
    intro middle hmiddle
    apply not_namesPresence
    revert middle
    cases axis <;> decide
  refine gated_whenPresent fun v hv => ?_
  rcases List.mem_flatMap.1 hv with ⟨middle, hmiddle, halong⟩
  rw [mem_require halong]
  exact hpath middle hmiddle

theorem gated_measures (quantity : Quantity) (range : Range) :
    Gated quantity.relation [e] (measures quantity range e) := by
  have hpath : ¬ NamesPresence quantity.relation := by
    apply not_namesPresence
    cases quantity <;> decide
  refine gated_whenPresent fun v hv => ?_
  -- A ratio that cannot be measured is reported under the same name as one that fails its test.
  cases hmeasure : quantity.measure e with
  | some x =>
      rw [hmeasure] at hv
      rw [mem_require hv]
      exact hpath
  | none =>
      rw [hmeasure] at hv
      rw [List.mem_singleton.1 hv]
      exact hpath

theorem gated_same (d : Dimension) (tolerance : Float) :
    Gated d.relation [a, b] (same d tolerance a b) := by
  have hpath : ¬ NamesPresence d.relation := by
    apply not_namesPresence
    cases d <;> decide
  exact gated_require hpath

theorem gated_overlaps : Gated "overlaps" [a, b] (overlaps a b) := by
  have hpath : ¬ NamesPresence "overlaps" := not_namesPresence (by decide)
  exact gated_require hpath

theorem gated_apart : Gated "no_overlap" [a, b] (apart a b) := by
  have hpath : ¬ NamesPresence "no_overlap" := not_namesPresence (by decide)
  exact gated_require hpath

theorem gated_reads (wording : Wording) : Gated wording.relation [e] (reads wording e) := by
  have hpath : ¬ NamesPresence wording.relation := by
    apply not_namesPresence
    cases wording <;> simp only [Wording.relation] <;> decide
  exact gated_require hpath

theorem gated_lineCount (range : Range) : Gated "line_count" [e] (lineCount range e) := by
  have hpath : ¬ NamesPresence "line_count" := not_namesPresence (by decide)
  exact gated_require hpath

/-- The details of a violation about missing operands. -/
theorem details_notFound (name : String) (selectors : List String) :
    (notFound name selectors).details.bind (·.member? "missing") = some (.strings selectors) := by
  have horderly : orderlyItems (selectors.map .string) = selectors.map .string := by
    induction selectors with
    | nil => rfl
    | cons selector rest ih =>
        rw [List.map_cons, orderlyItems, ih]
        rfl
  simp [notFound, Violation.detailed, orderly, orderlyMembers, Value.strings, horderly,
    Value.sorted, Value.insertMember, Value.member?]

end Relation

namespace Constraint

/-- The operands of a relation that measures them or reads their texts. -/
def measured? : Constraint → Option (List Operand)
  | beside _ a b _ => some [a, b]
  | near a b sides => if sides.isEmpty then none else some [a, b]
  | inside a b _ => some [a, b]
  | aligned a b _ _ => some [a, b]
  | centered a b _ _ => some [a, b]
  | measures a _ _ => some [a]
  | same a b _ _ => some [a, b]
  | overlaps a b => some [a, b]
  | apart a b => some [a, b]
  | reads a _ => some [a]
  | lineCount a _ => some [a]
  | _ => none

/-- Whatever is looked up, such a relation asks for its operands first. -/
theorem gated_check (find : ElementRef → Element) (findAll : GroupRef → Group)
    (around : Surroundings) {c : Constraint} {operands : List Operand}
    (hc : c.measured? = some operands) :
    Relation.Gated c.name (operands.map (·.denotes find around))
      ((c.check around).answer find findAll) := by
  cases c with
  | beside side a b range =>
      cases hc
      simpa [check, name] using Relation.gated_beside side range
  | near a b sides =>
      cases hsides : sides.isEmpty with
      | true => simp [measured?, hsides] at hc
      | false =>
          simp only [measured?, hsides, Bool.false_eq_true, if_false, Option.some.injEq] at hc
          subst hc
          simpa [check, name, hsides] using Relation.gated_near sides
  | inside a b edges =>
      cases hc
      simpa [check, name] using Relation.gated_inside edges
  | aligned a b guide tolerance =>
      cases hc
      simpa [check, name] using Relation.gated_aligned guide tolerance
  | centered a b axis tolerance =>
      cases hc
      simpa [check, name] using Relation.gated_centered axis tolerance
  | measures a quantity range =>
      cases hc
      simpa [check, name] using Relation.gated_measures quantity range
  | same a b dimension tolerance =>
      cases hc
      simpa [check, name] using Relation.gated_same dimension tolerance
  | overlaps a b =>
      cases hc
      simpa [check, name] using Relation.gated_overlaps
  | apart a b =>
      cases hc
      simpa [check, name] using Relation.gated_apart
  | reads a wording =>
      cases hc
      simpa [check, name] using Relation.gated_reads wording
  | lineCount a range =>
      cases hc
      simpa [check, name] using Relation.gated_lineCount range
  | _ => cases hc

/-- What a relation says first of an element: its selector, and whether it is there. -/
def face (e : Element) : String × Bool := (e.selector, e.present)

theorem missing_congr {es es' : List Element} (hface : es'.map face = es.map face) :
    Relation.missing es' = Relation.missing es := by
  have hmissing (es : List Element) :
      Relation.missing es = ((es.map face).filter (!·.2)).map (·.1) := by
    rw [List.filter_map, List.map_map]
    rfl
  rw [hmissing, hmissing, hface]

theorem exists_missing_congr {es es' : List Element} (hface : es'.map face = es.map face)
    (hmissing : ∃ e ∈ es, e.present = false) : ∃ e ∈ es', e.present = false := by
  rcases hmissing with ⟨e, he, habsent⟩
  have hmem : face e ∈ es'.map face := hface ▸ List.mem_map_of_mem he
  rcases List.mem_map.1 hmem with ⟨e', he', hsame⟩
  exact ⟨e', he', (congrArg Prod.snd hsame).trans habsent⟩

/-- A relation that measures its operands, or reads their texts, reports exactly one violation if
some of them are not there, and that one names them.  It is the same for all relations of that name
and all operands with the same selectors of which the same are there.  If all are there then no
violation says that one is not. -/
theorem presence_first (find : ElementRef → Element) (findAll : GroupRef → Group)
    (around : Surroundings) (c : Constraint) (operands : List Operand)
    (hc : c.measured? = some operands) :
    let found := operands.map (·.denotes find around)
    let violations := (c.check around).answer find findAll
    ((∃ e ∈ found, e.present = false) →
      (∃ v, violations = [v] ∧ v.path = c.name ++ ".present" ∧
        v.details.bind (·.member? "missing") =
          some (.strings ((found.filter (!·.present)).map (·.selector)))) ∧
      ∀ (find' : ElementRef → Element) (findAll' : GroupRef → Group) (around' : Surroundings)
        (c' : Constraint) (operands' : List Operand),
        c'.measured? = some operands' → c'.name = c.name →
        (operands'.map (·.denotes find' around')).map face = found.map face →
        (c'.check around').answer find' findAll' = violations) ∧
    ((∀ e ∈ found, e.present = true) →
      ∀ v ∈ violations, ∀ outer, v.path ≠ outer ++ ".present") := by
  intro found violations
  have hgated := gated_check find findAll around hc
  refine ⟨fun hmissing => ⟨?_, ?_⟩, ?_⟩
  · refine ⟨_, hgated.of_missing hmissing, rfl, ?_⟩
    exact Relation.details_notFound c.name (Relation.missing found)
  · intro find' findAll' around' c' operands' hc' hname hface
    have hgated' := gated_check find' findAll' around' hc'
    have hfound' := hgated'.of_missing (exists_missing_congr hface hmissing)
    -- Both findings say which operands are missing, and under the same name.
    rw [hfound', hname, missing_congr hface]
    exact (hgated.of_missing hmissing).symm
  · intro hpresent v hv outer hpath
    exact hgated.of_present hpresent v hv ⟨outer, hpath⟩

/-- A menu that is not there is below nothing, wherever the header is and whatever it shows. -/
theorem presence_first_of_menu :
    let menu := Element.missing ".menu"
    let header := Element.shownAt "header" ⟨0.0, 0.0, 1000.0, 60.0⟩
    let other : Element :=
      { header with box := ⟨5.0, 0.0 / 0.0, 1.0, 1.0⟩, visible := false, text := "x" }
    let below (a b : Element) : Constraint :=
      .beside .below (.element a) (.element b) (.atLeast 0.0)
    let violations (c : Constraint) := (c.check []).answer Inhabited.default Inhabited.default
    (below menu header).measured? = some [.element menu, .element header] ∧
      (∃ v, violations (below menu header) = [v] ∧ v.path = "below.present" ∧
        v.details.bind (·.member? "missing") = some (.strings [".menu"])) ∧
      violations (below menu other) = violations (below menu header) ∧
      ∀ v ∈ violations (below header header), ∀ outer, v.path ≠ outer ++ ".present" := by
  intro menu header other below violations
  have hmenu := (presence_first Inhabited.default Inhabited.default [] (below menu header) _ rfl).1
    ⟨menu, List.mem_cons_self, rfl⟩
  have hheader :=
    (presence_first Inhabited.default Inhabited.default [] (below header header) _ rfl).2
  -- The other header has the selector of the first one, and is there as well.
  refine ⟨rfl, hmenu.1, hmenu.2 _ _ [] (below menu other) _ rfl rfl rfl, hheader ?_⟩
  intro e he
  rcases List.mem_cons.1 he with rfl | he
  · rfl
  · rw [List.mem_singleton.1 he]
    rfl

end Constraint
end LayoutAudit
