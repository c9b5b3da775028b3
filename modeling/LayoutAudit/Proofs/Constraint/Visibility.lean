import LayoutAudit.Proofs.Constraint.Meaning
import LayoutAudit.Proofs.Coordinate.Count
import LayoutAudit.Proofs.Relation.Presence

/-!
# Proofs.Constraint.Visibility — which members of a group are visible

Whether the members of a group are visible can be asked of each, of all, of some, of none, and as a
number.  The relation of one element asks for two flags, that the element is there and that it is
visible, but what counts the members and what asks for a hidden one read the second flag alone.

* `Constraint.Clean` — nothing is wrong with a constraint;
* `Constraint.AgreeOnVisible` — the ways of asking agree on a group;
* `Constraint.clean_flagged_iff`, `Constraint.clean_counts_iff` — what each of them asks;
* `Constraint.ways_of_asking` — they agree exactly on the groups in which whatever is flagged visible
  is there;
* `Constraint.neither_visible_nor_hidden` — a group that was read on which they do not.
-/

namespace LayoutAudit
namespace Constraint

variable (find : ElementRef → Element) (findAll : GroupRef → Group) (around : Surroundings)

/-- Nothing is wrong with a constraint. -/
def Clean (c : Constraint) : Prop := (c.check around).answer find findAll = []

instance (c : Constraint) : Decidable (c.Clean find findAll around) :=
  inferInstanceAs (Decidable (_ = []))

/-- The ways of asking which members of a group are visible agree. -/
structure AgreeOnVisible (g : GroupOperand) : Prop where
  /-- A number of visible members is the number of those that the relation finds visible. -/
  amount : ∀ n : Nat, (counts g .visible (.exactly (Float.ofNat n))).Clean find findAll around ↔
    (g.denotes findAll).items.countP
      (fun e => (flagged (.element e) .visible).Clean find findAll around) = n
  /-- All members are visible if as many are as there are. -/
  every : (everyOf g fun e => [flagged (.element e) .visible]).Clean find findAll around ↔
    (counts g .visible (.exactly (Float.ofNat (g.denotes findAll).items.length))).Clean
      find findAll around
  /-- Some member is visible if at least one is. -/
  some : (someOf g fun e => [flagged (.element e) .visible]).Clean find findAll around ↔
    (counts g .visible (.atLeast (Float.ofNat 1))).Clean find findAll around
  /-- No member is visible if none is. -/
  none : (noneOf g fun e => [flagged (.element e) .visible]).Clean find findAll around ↔
    (counts g .visible (.exactly (Float.ofNat 0))).Clean find findAll around
  /-- A member is hidden if it is not visible. -/
  hidden : ∀ e ∈ (g.denotes findAll).items,
    (flagged (.element e) .hidden).Clean find findAll around ↔
      ¬ (flagged (.element e) .visible).Clean find findAll around

/-! ## What is asked -/

theorem require_eq_nil_iff (holds : Bool) (v : Violation) :
    Relation.require holds v = [] ↔ holds = true := by
  cases holds <;> simp [Relation.require]

theorem clean_flagged_iff (a : Operand) (flag : Flag) :
    (flagged a flag).Clean find findAll around ↔ flag.holds (a.denotes find around) = true := by
  simp [Clean, check, Relation.flagged, require_eq_nil_iff]

theorem clean_counts_iff (g : GroupOperand) (tally : Tally) (range : Range) :
    (counts g tally range).Clean find findAll around ↔
      range.admits (Float.ofNat (tally.count (g.denotes findAll))) = true := by
  simp [Clean, check, Relation.counts, require_eq_nil_iff]

/-- An element is found visible if both its flags say so. -/
theorem clean_visible_iff (e : Element) :
    (flagged (.element e) .visible).Clean find findAll around ↔
      e.present = true ∧ e.visible = true := by
  simp [clean_flagged_iff, Operand.denotes, Flag.holds]

/-- An element is found hidden if it is not flagged visible, whether it is there or not. -/
theorem clean_hidden_iff (e : Element) :
    (flagged (.element e) .hidden).Clean find findAll around ↔ e.visible = false := by
  simp [clean_flagged_iff, Operand.denotes, Flag.holds]

/-! ## Numbers of visible members -/

section Amounts

variable (g : GroupOperand)

/-- An amount of visible members is the number of those that are flagged visible. -/
theorem clean_amount_iff (hsize : (g.denotes findAll).items.length < 2 ^ 53) (n : Nat) :
    (counts g .visible (.exactly (Float.ofNat n))).Clean find findAll around ↔
      (g.denotes findAll).items.countP (·.visible) = n := by
  have hcount : Tally.visible.count (g.denotes findAll) < 2 ^ 53 :=
    List.countP_le_length.trans_lt hsize
  rw [clean_counts_iff, Range.admits, Coordinate.ofNat_isNaN, Bool.not_false, Bool.true_and,
    Coordinate.ofNat_beq_iff hcount]
  rfl

/-- At least one member is visible exactly if one is flagged visible. -/
theorem clean_atLeast_one_iff :
    (counts g .visible (.atLeast (Float.ofNat 1))).Clean find findAll around ↔
      ∃ e ∈ (g.denotes findAll).items, e.visible = true := by
  rw [clean_counts_iff, Range.admits, Coordinate.ofNat_isNaN, Bool.not_false, Bool.true_and,
    decide_eq_true_iff, Coordinate.one_le_ofNat_iff]
  exact List.countP_pos_iff

/-- Those that are flagged visible are those that are found visible, and those that are not there. -/
theorem countP_visible_eq (items : List Element) :
    items.countP (·.visible) =
      items.countP (fun e => (flagged (.element e) .visible).Clean find findAll around) +
        items.countP (fun e => !e.present && e.visible) := by
  induction items with
  | nil => rfl
  | cons e rest ih =>
      simp only [List.countP_cons, ih, decide_eq_true_eq, clean_visible_iff]
      cases e.present <;> cases e.visible <;> simp <;> omega

end Amounts

/-- If whatever is flagged visible is there, the second flag alone decides. -/
theorem clean_visible_iff_of_flags {e : Element} (hflags : e.visible = true → e.present = true) :
    (flagged (.element e) .visible).Clean find findAll around ↔ e.visible = true := by
  rw [clean_visible_iff]
  exact ⟨And.right, fun hvisible => ⟨hflags hvisible, hvisible⟩⟩

theorem checkAll_visible_iff (e : Element) :
    (checkAll (e :: around) [flagged (.element e) .visible]).answer find findAll = [] ↔
      (flagged (.element e) .visible).Clean find findAll around := by
  rw [clean_visible_iff, ← clean_visible_iff find findAll (e :: around)]
  simp [Clean]

/-! ## Where they agree -/

theorem agreeOnVisible_of_flags {g : GroupOperand}
    (hsize : (g.denotes findAll).items.length < 2 ^ 53)
    (hflags : ∀ e ∈ (g.denotes findAll).items, e.visible = true → e.present = true) :
    AgreeOnVisible find findAll around g where
  amount := by
    intro n
    have hcount : (g.denotes findAll).items.countP (·.visible) = (g.denotes findAll).items.countP
        (fun e => (flagged (.element e) .visible).Clean find findAll around) := by
      apply List.countP_congr
      intro e he
      rw [decide_eq_true_iff]
      exact (clean_visible_iff_of_flags find findAll around (hflags e he)).symm
    rw [clean_amount_iff find findAll around g hsize, hcount]
  every := by
    rw [clean_amount_iff find findAll around g hsize, List.countP_eq_length, Clean,
      check_everyOf_nil_iff]
    apply forall₂_congr
    intro e he
    rw [checkAll_visible_iff, clean_visible_iff_of_flags find findAll around (hflags e he)]
  some := by
    rw [clean_atLeast_one_iff, Clean, check_someOf_nil_iff]
    apply exists_congr
    intro e
    apply and_congr_right
    intro he
    rw [checkAll_visible_iff, clean_visible_iff_of_flags find findAll around (hflags e he)]
  none := by
    rw [clean_amount_iff find findAll around g hsize, List.countP_eq_zero, Clean,
      check_noneOf_nil_iff, not_exists]
    apply forall_congr'
    intro e
    rw [not_and]
    apply forall_congr'
    intro he
    rw [checkAll_visible_iff, clean_visible_iff_of_flags find findAll around (hflags e he)]
  hidden := by
    intro e he
    rw [clean_hidden_iff, clean_visible_iff_of_flags find findAll around (hflags e he),
      Bool.not_eq_true]

/-- Where some element is flagged visible and is not there, two of the ways fail. -/
theorem flags_of_hidden {e : Element}
    (hhidden : (flagged (.element e) .hidden).Clean find findAll around ↔
      ¬ (flagged (.element e) .visible).Clean find findAll around)
    (hvisible : e.visible = true) : e.present = true := by
  by_contra habsent
  -- It is not found hidden, for it is flagged visible, nor visible, for it is not there.
  have hclean := hhidden.2 fun h => habsent ((clean_visible_iff find findAll around e).1 h).1
  rw [clean_hidden_iff, hvisible] at hclean
  cases hclean

theorem flags_of_amount {g : GroupOperand} (hsize : (g.denotes findAll).items.length < 2 ^ 53)
    (hamount : ∀ n : Nat, (counts g .visible (.exactly (Float.ofNat n))).Clean find findAll around ↔
      (g.denotes findAll).items.countP
        (fun e => (flagged (.element e) .visible).Clean find findAll around) = n) :
    ∀ e ∈ (g.denotes findAll).items, e.visible = true → e.present = true := by
  have hflagged := (hamount _).1 ((clean_amount_iff find findAll around g hsize _).2 rfl)
  have hsplit := countP_visible_eq find findAll around (g.denotes findAll).items
  have hnone : (g.denotes findAll).items.countP (fun e => !e.present && e.visible) = 0 := by omega
  intro e he hvisible
  simpa [hvisible] using List.countP_eq_zero.1 hnone e he

/-- The ways of asking which members of a group of fewer than `2 ^ 53` elements are visible.

1. An amount is the number of those that are flagged visible, and hidden is what is not flagged
   visible, whereas visible is what is flagged visible and is there.
2. So amounts count those that are found visible exactly if whatever is flagged visible is there;
3. exactly then the hidden members are those that are not found visible;
4. and exactly then all ways of asking agree. -/
theorem ways_of_asking (g : GroupOperand) (hsize : (g.denotes findAll).items.length < 2 ^ 53) :
    ((∀ n : Nat, (counts g .visible (.exactly (Float.ofNat n))).Clean find findAll around ↔
        (g.denotes findAll).items.countP (·.visible) = n) ∧
      (∀ e : Element, (flagged (.element e) .hidden).Clean find findAll around ↔
        e.visible = false) ∧
      (∀ e : Element, (flagged (.element e) .visible).Clean find findAll around ↔
        e.present = true ∧ e.visible = true)) ∧
    ((∀ n : Nat, (counts g .visible (.exactly (Float.ofNat n))).Clean find findAll around ↔
        (g.denotes findAll).items.countP
          (fun e => (flagged (.element e) .visible).Clean find findAll around) = n) ↔
      ∀ e ∈ (g.denotes findAll).items, e.visible = true → e.present = true) ∧
    ((∀ e ∈ (g.denotes findAll).items,
        ((flagged (.element e) .hidden).Clean find findAll around ↔
          ¬ (flagged (.element e) .visible).Clean find findAll around)) ↔
      ∀ e ∈ (g.denotes findAll).items, e.visible = true → e.present = true) ∧
    (AgreeOnVisible find findAll around g ↔
      ∀ e ∈ (g.denotes findAll).items, e.visible = true → e.present = true) := by
  have hagree := agreeOnVisible_of_flags find findAll around hsize
  refine ⟨⟨?_, ?_, ?_⟩, ⟨?_, ?_⟩, ⟨?_, ?_⟩, ⟨?_, hagree⟩⟩
  · exact clean_amount_iff find findAll around g hsize
  · exact clean_hidden_iff find findAll around
  · exact clean_visible_iff find findAll around
  · exact flags_of_amount find findAll around hsize
  · exact fun hflags => (hagree hflags).amount
  · exact fun h e he => flags_of_hidden find findAll around (h e he)
  · exact fun hflags => (hagree hflags).hidden
  · exact fun h => flags_of_amount find findAll around hsize h.amount

/-- A list of two items, both there and one visible. -/
theorem ways_of_asking_of_items :
    let items : List Element :=
      [.shownAt "li" .zero, { Element.shownAt "li" .zero with visible := false }]
    (GroupOperand.denotes (fun _ => ⟨"", []⟩) (.group ⟨"li", items⟩)).items.length < 2 ^ 53 ∧
      AgreeOnVisible (fun _ => .blank) (fun _ => ⟨"", []⟩) [] (.group ⟨"li", items⟩) := by
  intro items
  refine ⟨by decide, (ways_of_asking _ _ [] (.group ⟨"li", items⟩) (by decide)).2.2.2.2 ?_⟩
  simp [items, GroupOperand.denotes, Element.shownAt]

/-- An item that was read as visible and as not there is found neither visible nor hidden, and counts
as visible. -/
theorem neither_visible_nor_hidden :
    ∃ m : Measurement, Measurement.read
        ("\x7b\"store\":\x7b\"el-1\":[\x7b\"selector\":\"li\",\"box\":[0,0,10,10]," ++
          "\"visible\":true,\"present\":false\x7d]\x7d,\"view\":[\"view\",[0,0,10,10]]," ++
          "\"canvas\":[\"canvas\",[0,0,10,10]]\x7d") = .ok m ∧
      let g : GroupOperand := .group ⟨"li", m.store.get "el-1"⟩
      let clean (c : Constraint) : Prop := c.Clean (fun _ => .blank) (fun _ => ⟨"", []⟩) []
      ¬ (∀ n : Nat, clean (counts g .visible (.exactly (Float.ofNat n))) ↔
          (m.store.get "el-1").countP (fun e => clean (flagged (.element e) .visible)) = n) ∧
      ¬ (∀ e ∈ m.store.get "el-1", clean (flagged (.element e) .hidden) ↔
          ¬ clean (flagged (.element e) .visible)) := by
  generalize htext : "\x7b\"store\":\x7b\"el-1\":[\x7b\"selector\":\"li\",\"box\":[0,0,10,10]," ++
      "\"visible\":true,\"present\":false\x7d]\x7d,\"view\":[\"view\",[0,0,10,10]]," ++
      "\"canvas\":[\"canvas\",[0,0,10,10]]\x7d" = text
  have hread : ((Measurement.read text).toOption.map fun m =>
      (m.store.get "el-1").map fun e => (e.present, e.visible)) = some [(false, true)] := by
    rw [← htext]
    decide +kernel
  rcases hm : Measurement.read text with fault | m
  · simp [hm, Except.toOption] at hread
  simp only [hm, Except.toOption, Option.map_some, Option.some.injEq] at hread
  have hitem : ∃ e ∈ m.store.get "el-1", e.present = false ∧ e.visible = true := by
    have hmem : (false, true) ∈ (m.store.get "el-1").map fun e => (e.present, e.visible) := by
      rw [hread]
      exact List.mem_singleton.2 rfl
    rcases List.mem_map.1 hmem with ⟨e, he, hflags⟩
    exact ⟨e, he, congrArg Prod.fst hflags, congrArg Prod.snd hflags⟩
  rcases hitem with ⟨e, he, habsent, hvisible⟩
  have hlength : (m.store.get "el-1").length < 2 ^ 53 := by
    have hone : (m.store.get "el-1").length = 1 := by simpa using congrArg List.length hread
    omega
  refine ⟨m, rfl, ?_, ?_⟩
  · intro hamount
    have hpresent := flags_of_amount (fun _ => .blank) (fun _ => ⟨"", []⟩) []
      (g := .group ⟨"li", m.store.get "el-1"⟩) hlength hamount e he hvisible
    rw [habsent] at hpresent
    cases hpresent
  · intro hhidden
    have hpresent := flags_of_hidden _ _ _ (hhidden e he) hvisible
    rw [habsent] at hpresent
    cases hpresent

end Constraint
end LayoutAudit
