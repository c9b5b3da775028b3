import LayoutAudit.Wire.Record

/-!
# Proofs.Wire.Record — which objects are read as a structure

A structure is read out of an object exactly if each of its fields is given at most once, each value
that is given fits its field, the fields without a default are given, and the other members can be
passed over.  In what order the members come makes no difference.

* `Record.Outline` — what the fields of a record ask for, and when one has been read;
* `Outline.field`, `Outline.and`, `Outline.map` — records are built up with their outlines;
* `Outline.fromMembers_ok_iff` — when an object is read as a structure.
-/

namespace LayoutAudit
namespace Wire

/-- Members whose names are texts, as an object has them. -/
def Node.texts (members : List (String × Node)) : List (Node × Node) :=
  members.map fun m => (.string m.1, m.2)

namespace Record

variable {α β γ : Type}

/-- What the fields of a record ask for, and how it keeps account of those that have been read. -/
structure Outline (r : Record α) where
  /-- A value can be read as the field of a name, if there is such a field. -/
  fits : String → Node → Prop
  /-- The fields without a default. -/
  needed : List String
  /-- A field has been read. -/
  filled : r.Slots → String → Prop
  fits_of_foreign {name : String} (v : Node) : name ∉ r.names → fits name v
  mem_of_needed {name : String} : name ∈ needed → name ∈ r.names
  mem_of_filled {slots : r.Slots} {name : String} : filled slots name → name ∈ r.names
  not_filled_start (name : String) : ¬ filled r.start name
  put_eq_none_iff {name : String} {v : Node} {slots : r.Slots} :
    r.put name v slots = none ↔ name ∉ r.names
  put_ok_iff {name : String} {v : Node} {slots : r.Slots} : name ∈ r.names →
    ((∃ next, r.put name v slots = some (.ok next)) ↔ fits name v ∧ ¬ filled slots name)
  filled_put {name : String} {v : Node} {slots next : r.Slots} (other : String) :
    r.put name v slots = some (.ok next) → (filled next other ↔ other = name ∨ filled slots other)
  complete_ok_iff {slots : r.Slots} :
    (∃ a, r.complete slots = .ok a) ↔ ∀ name ∈ needed, filled slots name

/-! ## How records are built up -/

/-- What is made of a value that was read fails only if reading it fails. -/
theorem map_ok_iff {x : Reading α} {f : α → β} {b : β} :
    (do return f (← x) : Reading β) = .ok b ↔ ∃ a, x = .ok a ∧ f a = b := by
  cases x with
  | error fault =>
      constructor
      · intro h
        cases h
      · rintro ⟨a, ha, -⟩
        cases ha
  | ok a =>
      constructor
      · intro h
        exact ⟨a, rfl, Except.ok.inj h⟩
      · rintro ⟨_, ha, rfl⟩
        cases ha
        rfl

theorem put_field {name : String} {decode : Node → Reading α} {default? : Option α}
    {other : String} {v : Node} {slot next : Option α} :
    (field name decode default?).put other v slot = some (.ok next) ↔
      other = name ∧ slot = none ∧ ∃ a, decode v = .ok a ∧ some a = next := by
  by_cases hname : other = name
  · cases slot with
    | none => simp only [field, hname, if_true, Option.some.injEq, true_and, map_ok_iff]
    | some a => simp [field, hname]
  · simp [field, hname]

def Outline.field (name : String) (decode : Node → Reading α) (default? : Option α) :
    (Record.field name decode default?).Outline where
  fits other v := other = name → ∃ a, decode v = .ok a
  needed := if default?.isNone then [name] else []
  filled slot other := other = name ∧ slot.isSome = true
  fits_of_foreign v hforeign hname := absurd hname (by simpa [Record.field] using hforeign)
  mem_of_needed h := by
    cases default? <;> simp_all [Record.field]
  mem_of_filled h := by simp [Record.field, h.1]
  not_filled_start other h := by simp [Record.field] at h
  put_eq_none_iff {other v slot} := by
    cases slot <;> by_cases hname : other = name <;> simp [Record.field, hname]
  put_ok_iff {other v slot} hother := by
    have hname : other = name := by simpa [Record.field] using hother
    constructor
    · rintro ⟨next, hput⟩
      rcases put_field.1 hput with ⟨-, rfl, a, ha, -⟩
      exact ⟨fun _ => ⟨a, ha⟩, by simp⟩
    · rintro ⟨hfits, hempty⟩
      rcases hfits hname with ⟨a, ha⟩
      have hslot : slot = none := Option.not_isSome_iff_eq_none.1 fun h => hempty ⟨hname, h⟩
      exact ⟨some a, put_field.2 ⟨hname, hslot, a, ha, rfl⟩⟩
  filled_put other hput := by
    -- Only the field itself is taken, and only into an empty slot.
    rcases put_field.1 hput with ⟨rfl, rfl, a, -, rfl⟩
    simp
  complete_ok_iff {slot} := by
    cases slot <;> cases default? <;> simp [Record.field, Node.expect]

variable {r : Record α} {s : Record β}

/-- A member goes to the first structure if that has a field of its name, and else to the second. -/
theorem put_and {name : String} {v : Node} {slots next : r.Slots × s.Slots} :
    (r.and s).put name v slots = some (.ok next) ↔
      (r.put name v slots.1 = some (.ok next.1) ∧ next.2 = slots.2) ∨
        (r.put name v slots.1 = none ∧ s.put name v slots.2 = some (.ok next.2) ∧
          next.1 = slots.1) := by
  rcases next with ⟨left, right⟩
  cases hfirst : r.put name v slots.1 with
  | some read =>
      simp only [Record.and, hfirst, Option.some.injEq, map_ok_iff, Prod.mk.injEq]
      constructor
      · rintro ⟨_, hread, rfl, rfl⟩
        exact .inl ⟨hread, rfl⟩
      · rintro (⟨hread, rfl⟩ | ⟨h, -⟩)
        · exact ⟨left, hread, rfl, rfl⟩
        · cases h
  | none =>
      simp only [Record.and, hfirst, Option.map_eq_some_iff]
      constructor
      · rintro ⟨read, hsecond, hread⟩
        rcases map_ok_iff.1 hread with ⟨_, rfl, hnext⟩
        cases hnext
        exact .inr ⟨trivial, hsecond, rfl⟩
      · rintro (⟨h, -⟩ | ⟨-, hsecond, rfl⟩)
        · cases h
        · exact ⟨.ok right, hsecond, rfl⟩

theorem exists_put_and_of_own {name : String} {v : Node} {slots : r.Slots × s.Slots}
    (hown : r.put name v slots.1 ≠ none) :
    (∃ next, (r.and s).put name v slots = some (.ok next)) ↔
      ∃ left, r.put name v slots.1 = some (.ok left) := by
  constructor
  · rintro ⟨next, h⟩
    rcases put_and.1 h with ⟨hleft, -⟩ | ⟨hnone, -⟩
    · exact ⟨next.1, hleft⟩
    · exact absurd hnone hown
  · rintro ⟨left, hleft⟩
    exact ⟨(left, slots.2), put_and.2 (.inl ⟨hleft, rfl⟩)⟩

theorem exists_put_and_of_foreign {name : String} {v : Node} {slots : r.Slots × s.Slots}
    (hforeign : r.put name v slots.1 = none) :
    (∃ next, (r.and s).put name v slots = some (.ok next)) ↔
      ∃ right, s.put name v slots.2 = some (.ok right) := by
  constructor
  · rintro ⟨next, h⟩
    rcases put_and.1 h with ⟨hleft, -⟩ | ⟨-, hright, -⟩
    · cases hforeign.symm.trans hleft
    · exact ⟨next.2, hright⟩
  · rintro ⟨right, hright⟩
    exact ⟨(slots.1, right), put_and.2 (.inr ⟨hforeign, hright, rfl⟩)⟩

theorem put_and_eq_none_iff {name : String} {v : Node} {slots : r.Slots × s.Slots} :
    (r.and s).put name v slots = none ↔
      r.put name v slots.1 = none ∧ s.put name v slots.2 = none := by
  cases hfirst : r.put name v slots.1 <;> simp [Record.and, hfirst]

theorem complete_and {slots : r.Slots × s.Slots} {a : α} {b : β} :
    (r.and s).complete slots = .ok (a, b) ↔
      r.complete slots.1 = .ok a ∧ s.complete slots.2 = .ok b := by
  cases hfirst : r.complete slots.1 <;> cases hsecond : s.complete slots.2 <;>
    simp [Record.and, hfirst, hsecond, Bind.bind, Except.bind, Pure.pure, Except.pure]

theorem exists_complete_and {slots : r.Slots × s.Slots} :
    (∃ c, (r.and s).complete slots = .ok c) ↔
      (∃ a, r.complete slots.1 = .ok a) ∧ ∃ b, s.complete slots.2 = .ok b := by
  constructor
  · rintro ⟨⟨a, b⟩, h⟩
    exact ⟨⟨a, (complete_and.1 h).1⟩, ⟨b, (complete_and.1 h).2⟩⟩
  · rintro ⟨⟨a, ha⟩, ⟨b, hb⟩⟩
    exact ⟨(a, b), complete_and.2 ⟨ha, hb⟩⟩

/-- The fields of two structures that share no name. -/
def Outline.and (o : r.Outline) (p : s.Outline) (hdisjoint : ∀ name ∈ r.names, name ∉ s.names) :
    (r.and s).Outline where
  fits name v := o.fits name v ∧ p.fits name v
  needed := o.needed ++ p.needed
  filled slots name := o.filled slots.1 name ∨ p.filled slots.2 name
  fits_of_foreign v hforeign := by
    have hnames := not_or.1 (mt List.mem_append.2 hforeign)
    exact ⟨o.fits_of_foreign v hnames.1, p.fits_of_foreign v hnames.2⟩
  mem_of_needed h := by
    rcases List.mem_append.1 h with h | h
    · exact List.mem_append_left _ (o.mem_of_needed h)
    · exact List.mem_append_right _ (p.mem_of_needed h)
  mem_of_filled := by
    rintro slots name (h | h)
    · exact List.mem_append_left _ (o.mem_of_filled h)
    · exact List.mem_append_right _ (p.mem_of_filled h)
  not_filled_start name := by
    rintro (h | h)
    · exact o.not_filled_start name h
    · exact p.not_filled_start name h
  put_eq_none_iff {name v slots} := by
    refine put_and_eq_none_iff.trans ?_
    rw [o.put_eq_none_iff, p.put_eq_none_iff]
    simp [Record.and]
  put_ok_iff {name v slots} hname := by
    by_cases hfirst : name ∈ r.names
    · -- The second structure has no such field, so that only the first one has a say.
      have hown : r.put name v slots.1 ≠ none := fun h => o.put_eq_none_iff.1 h hfirst
      have hforeign : name ∉ s.names := hdisjoint name hfirst
      have hempty : ¬ p.filled slots.2 name := fun h => hforeign (p.mem_of_filled h)
      refine (exists_put_and_of_own hown).trans ?_
      rw [o.put_ok_iff hfirst]
      simp [p.fits_of_foreign v hforeign, hempty]
    · have hsecond : name ∈ s.names := (List.mem_append.1 hname).resolve_left hfirst
      have hnone : r.put name v slots.1 = none := o.put_eq_none_iff.2 hfirst
      have hempty : ¬ o.filled slots.1 name := fun h => hfirst (o.mem_of_filled h)
      refine (exists_put_and_of_foreign hnone).trans ?_
      rw [p.put_ok_iff hsecond]
      simp [o.fits_of_foreign v hfirst, hempty]
  filled_put {name v slots next} other hput := by
    rcases put_and.1 hput with ⟨hfirst, hsame⟩ | ⟨-, hsecond, hsame⟩
    · rw [o.filled_put other hfirst, hsame, or_assoc]
    · rw [p.filled_put other hsecond, hsame, or_left_comm]
  complete_ok_iff {slots} := by
    refine exists_complete_and.trans ?_
    rw [o.complete_ok_iff, p.complete_ok_iff]
    constructor
    · rintro ⟨hfirst, hsecond⟩ name hname
      rcases List.mem_append.1 hname with h | h
      · exact .inl (hfirst name h)
      · exact .inr (hsecond name h)
    · intro hboth
      refine ⟨fun name hname => ?_, fun name hname => ?_⟩
      · have hforeign := hdisjoint name (o.mem_of_needed hname)
        refine (hboth name (List.mem_append_left _ hname)).resolve_right ?_
        exact fun h => hforeign (p.mem_of_filled h)
      · have hforeign := fun h => hdisjoint name h (p.mem_of_needed hname)
        refine (hboth name (List.mem_append_right _ hname)).resolve_left ?_
        exact fun h => hforeign (o.mem_of_filled h)

/-- A structure in another form. -/
def Outline.map (f : α → β) (o : r.Outline) : (r.map f).Outline where
  fits := o.fits
  needed := o.needed
  filled := o.filled
  fits_of_foreign := o.fits_of_foreign
  mem_of_needed := o.mem_of_needed
  mem_of_filled := o.mem_of_filled
  not_filled_start := o.not_filled_start
  put_eq_none_iff := o.put_eq_none_iff
  put_ok_iff := o.put_ok_iff
  filled_put := o.filled_put
  complete_ok_iff {slots} := by
    refine Iff.trans ?_ o.complete_ok_iff
    constructor
    · rintro ⟨b, hb⟩
      rcases map_ok_iff.1 hb with ⟨a, ha, -⟩
      exact ⟨a, ha⟩
    · rintro ⟨a, ha⟩
      exact ⟨f a, map_ok_iff.2 ⟨a, ha, rfl⟩⟩

/-! ## Reading members -/

/-- A member fits its field, or can be passed over if it has none. -/
def Outline.Passes (o : r.Outline) (m : String × Node) : Prop :=
  (m.1 ∈ r.names → o.fits m.1 m.2) ∧ (m.1 ∉ r.names → Node.skip m.2 = .ok ())

/-- No field is given twice. -/
def Once (names : List String) (members : List (String × Node)) : Prop :=
  members.Pairwise fun m m' => m.1 ∈ names → m'.1 ≠ m.1

/-- A member goes to its slot, or is passed over if it is no field; the others come after it. -/
theorem putMembers_cons_ok_iff {name : String} {v : Node} {rest : List (String × Node)}
    {slots last : r.Slots} :
    r.putMembers (Node.texts ((name, v) :: rest)) slots = .ok last ↔
      (∃ next, r.put name v slots = some (.ok next) ∧
        r.putMembers (Node.texts rest) next = .ok last) ∨
      (r.put name v slots = none ∧ Node.skip v = .ok () ∧
        r.putMembers (Node.texts rest) slots = .ok last) := by
  rcases hput : r.put name v slots with _ | (fault | next)
  · cases hskip : Node.skip v <;>
      simp [Node.texts, putMembers, Node.asText, hput, hskip, Bind.bind, Except.bind]
  · simp [Node.texts, putMembers, Node.asText, hput, Bind.bind, Except.bind]
  · simp [Node.texts, putMembers, Node.asText, hput, Bind.bind, Except.bind]

/-- Members that can be read pass, each field at most once, and fill slots that were empty. -/
theorem Outline.passes_of_putMembers (o : r.Outline) {members : List (String × Node)}
    {slots last : r.Slots} (hread : r.putMembers (Node.texts members) slots = .ok last) :
    (∀ m ∈ members, o.Passes m) ∧ Once r.names members ∧ ∀ m ∈ members, ¬ o.filled slots m.1 := by
  induction members generalizing slots with
  | nil => simp [Once]
  | cons m rest ih =>
      rcases m with ⟨name, v⟩
      simp only [List.forall_mem_cons, Once, List.pairwise_cons]
      rcases putMembers_cons_ok_iff.1 hread with ⟨next, hput, hrest⟩ | ⟨hnone, hskip, hrest⟩
      · rcases ih hrest with ⟨hpass, honce, hempty⟩
        have hname : name ∈ r.names := Decidable.byContradiction fun hforeign => by
          cases (o.put_eq_none_iff.2 hforeign).symm.trans hput
        have hfirst := (o.put_ok_iff hname).1 ⟨next, hput⟩
        -- What can still be filled has another name, and was empty before.
        have hother : ∀ m ∈ rest, m.1 ≠ name ∧ ¬ o.filled slots m.1 := fun m hm =>
          not_or.1 (mt (o.filled_put m.1 hput).2 (hempty m hm))
        refine ⟨⟨⟨fun _ => hfirst.1, fun h => absurd hname h⟩, hpass⟩, ⟨?_, honce⟩, ?_⟩
        · exact fun m hm _ => (hother m hm).1
        · exact ⟨hfirst.2, fun m hm => (hother m hm).2⟩
      · rcases ih hrest with ⟨hpass, honce, hempty⟩
        have hforeign : name ∉ r.names := o.put_eq_none_iff.1 hnone
        refine ⟨⟨⟨fun h => absurd h hforeign, fun _ => hskip⟩, hpass⟩, ⟨?_, honce⟩, ?_⟩
        · exact fun m _ h => absurd h hforeign
        · exact ⟨fun h => hforeign (o.mem_of_filled h), hempty⟩

/-- Such members can be read. -/
theorem Outline.exists_putMembers (o : r.Outline) {members : List (String × Node)}
    {slots : r.Slots} (hpass : ∀ m ∈ members, o.Passes m) (honce : Once r.names members)
    (hempty : ∀ m ∈ members, ¬ o.filled slots m.1) :
    ∃ last, r.putMembers (Node.texts members) slots = .ok last := by
  induction members generalizing slots with
  | nil => exact ⟨slots, rfl⟩
  | cons m rest ih =>
      rcases m with ⟨name, v⟩
      rcases List.forall_mem_cons.1 hpass with ⟨hfirst, hpass⟩
      rcases List.pairwise_cons.1 honce with ⟨hdistinct, honce⟩
      rcases List.forall_mem_cons.1 hempty with ⟨hslot, hempty⟩
      by_cases hname : name ∈ r.names
      · rcases (o.put_ok_iff hname).2 ⟨hfirst.1 hname, hslot⟩ with ⟨next, hput⟩
        have hnext : ∀ m ∈ rest, ¬ o.filled next m.1 := by
          intro m hm hfilled
          rcases (o.filled_put m.1 hput).1 hfilled with hsame | hbefore
          · exact hdistinct m hm hname hsame
          · exact hempty m hm hbefore
        rcases ih hpass honce hnext with ⟨last, hrest⟩
        exact ⟨last, putMembers_cons_ok_iff.2 (.inl ⟨next, hput, hrest⟩)⟩
      · have hnone : r.put name v slots = none := o.put_eq_none_iff.2 hname
        rcases ih hpass honce hempty with ⟨last, hrest⟩
        exact ⟨last, putMembers_cons_ok_iff.2 (.inr ⟨hnone, hfirst.2 hname, hrest⟩)⟩

/-- The slots that are filled in the end. -/
theorem Outline.filled_putMembers (o : r.Outline) {members : List (String × Node)}
    {slots last : r.Slots} (hread : r.putMembers (Node.texts members) slots = .ok last)
    {name : String} (hname : name ∈ r.names) :
    o.filled last name ↔ (∃ m ∈ members, m.1 = name) ∨ o.filled slots name := by
  induction members generalizing slots with
  | nil =>
      cases hread
      simp
  | cons m rest ih =>
      have hmembers : (∃ m' ∈ m :: rest, m'.1 = name) ↔
          name = m.1 ∨ ∃ m' ∈ rest, m'.1 = name := by simp [eq_comm]
      rw [hmembers]
      rcases putMembers_cons_ok_iff.1 hread with ⟨next, hput, hrest⟩ | ⟨hnone, -, hrest⟩
      · rw [ih hrest, o.filled_put name hput, or_left_comm, or_assoc]
      · -- What is passed over is no field, and so not this one.
        have hforeign : name ≠ m.1 := fun h => o.put_eq_none_iff.1 hnone (h ▸ hname)
        rw [ih hrest, or_iff_right hforeign]

/-- An object is read as a structure exactly if no field is given twice, all members pass, and the
fields without a default are given. -/
theorem Outline.fromMembers_ok_iff (o : r.Outline) (members : List (String × Node)) :
    (∃ a, r.fromMembers (Node.texts members) none = .ok a) ↔
      (∀ m ∈ members, o.Passes m) ∧ Once r.names members ∧
        ∀ name ∈ o.needed, ∃ m ∈ members, m.1 = name := by
  have hstages : (∃ a, r.fromMembers (Node.texts members) none = .ok a) ↔
      ∃ last, r.putMembers (Node.texts members) r.start = .ok last ∧
        ∃ a, r.complete last = .ok a := by
    cases hread : r.putMembers (Node.texts members) r.start <;>
      simp [fromMembers, hread, Node.finish, Bind.bind, Except.bind]
  have hempty : ∀ m ∈ members, ¬ o.filled r.start m.1 := fun m _ => o.not_filled_start m.1
  have hgiven {last : r.Slots} (hread : r.putMembers (Node.texts members) r.start = .ok last) :
      (∃ a, r.complete last = .ok a) ↔ ∀ name ∈ o.needed, ∃ m ∈ members, m.1 = name := by
    rw [o.complete_ok_iff]
    refine forall₂_congr fun name hname => ?_
    rw [o.filled_putMembers hread (o.mem_of_needed hname), or_iff_left (o.not_filled_start name)]
  rw [hstages]
  constructor
  · rintro ⟨last, hread, hcomplete⟩
    rcases o.passes_of_putMembers hread with ⟨hpass, honce, -⟩
    exact ⟨hpass, honce, (hgiven hread).1 hcomplete⟩
  · rintro ⟨hpass, honce, hneeded⟩
    rcases o.exists_putMembers hpass honce hempty with ⟨last, hread⟩
    exact ⟨last, hread, (hgiven hread).2 hneeded⟩

/-! ## The value of the first field -/

variable {name : String} {decode : Node → Reading α} {default? : Option α} {f : α × β → γ}

theorem put_field_eq_none_iff {other : String} {v : Node} {slot : Option α} :
    (field name decode default?).put other v slot = none ↔ other ≠ name := by
  refine (Outline.field name decode default?).put_eq_none_iff.trans ?_
  simp [field]

/-- What has been read for the first field stays, and is what was given for it. -/
theorem first_putMembers {members : List (String × Node)} {slots last : Option α × s.Slots}
    (hread : (((field name decode default?).and s).map f).putMembers (Node.texts members) slots =
      .ok last) :
    (∀ a, slots.1 = some a → last.1 = some a) ∧
      ∀ v, (name, v) ∈ members → ∃ a, decode v = .ok a ∧ last.1 = some a := by
  induction members generalizing slots with
  | nil =>
      cases hread
      simp
  | cons m rest ih =>
      rcases m with ⟨other, w⟩
      -- Either the member is the first field, or it leaves the slot of that field alone.
      have hcases : (other = name ∧ slots.1 = none ∧ ∃ a, decode w = .ok a ∧ last.1 = some a ∧
            ∀ v, (name, v) ∈ rest → ∃ a, decode v = .ok a ∧ last.1 = some a) ∨
          (other ≠ name ∧ (∀ a, slots.1 = some a → last.1 = some a) ∧
            ∀ v, (name, v) ∈ rest → ∃ a, decode v = .ok a ∧ last.1 = some a) := by
        rcases putMembers_cons_ok_iff.1 hread with ⟨next, hput, hrest⟩ | ⟨hnone, -, hrest⟩
        · rcases ih hrest with ⟨hkeep, hgiven⟩
          rcases put_and.1 hput with ⟨hfirst, -⟩ | ⟨hforeign, -, hsame⟩
          · rcases put_field.1 hfirst with ⟨hname, hempty, a, ha, hnext⟩
            exact .inl ⟨hname, hempty, a, ha, hkeep a hnext.symm, hgiven⟩
          · exact .inr ⟨put_field_eq_none_iff.1 hforeign, hsame ▸ hkeep, hgiven⟩
        · exact .inr ⟨put_field_eq_none_iff.1 (put_and_eq_none_iff.1 hnone).1, ih hrest⟩
      rcases hcases with ⟨rfl, hempty, a, ha, hlast, hgiven⟩ | ⟨hother, hkeep, hgiven⟩
      · refine ⟨fun a' ha' => ?_, fun v hv => ?_⟩
        · cases hempty.symm.trans ha'
        · rcases List.mem_cons.1 hv with hv | hv
          · cases hv
            exact ⟨a, ha, hlast⟩
          · exact hgiven v hv
      · refine ⟨hkeep, fun v hv => ?_⟩
        rcases List.mem_cons.1 hv with hv | hv
        · cases hv
          exact absurd rfl hother
        · exact hgiven v hv

/-- What is given for the first field of a structure is what the structure holds. -/
theorem first_of_fromMembers {members : List (String × Node)} {c : γ}
    (hread : (((field name decode default?).and s).map f).fromMembers (Node.texts members) none =
      .ok c) {v : Node} (hv : (name, v) ∈ members) : ∃ a b, decode v = .ok a ∧ f (a, b) = c := by
  let whole := ((field name decode default?).and s).map f
  have hstages : ∃ last, whole.putMembers (Node.texts members) whole.start = .ok last ∧
      whole.complete last = .ok c := by
    cases hput : whole.putMembers (Node.texts members) whole.start with
    | error fault =>
        rw [fromMembers, hput] at hread
        cases hread
    | ok last =>
        rw [fromMembers, hput] at hread
        exact ⟨last, rfl, hread⟩
  rcases hstages with ⟨last, hput, hcomplete⟩
  rcases (first_putMembers hput).2 v hv with ⟨a, ha, hlast⟩
  rcases map_ok_iff.1 hcomplete with ⟨⟨a', b⟩, hboth, hc⟩
  -- The first slot is filled, so that no default stands in for it.
  have hfirst : (field name decode default?).complete last.1 = .ok a' := (complete_and.1 hboth).1
  rw [hlast] at hfirst
  cases hfirst
  exact ⟨a, b, ha, hc⟩

end Record
end Wire
end LayoutAudit
