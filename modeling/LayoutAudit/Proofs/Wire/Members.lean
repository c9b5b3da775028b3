import LayoutAudit.Proofs.Wire.Reading
import LayoutAudit.Proofs.Wire.Record

/-!
# Proofs.Wire.Members — what the members of an object are read as

A structure is read member by member, in the order in which they come.  While that goes on, each
field has either been read or is still to come or is not given at all, and what the structure will be
in the end does not change.

* `Record.Prospect` — what a structure will be, given the members that are still to come;
* `Prospect.field`, `Prospect.and`, `Prospect.map` — records are built up with their prospects;
* `Json.Value.Fill` — members of an object that are read as a structure;
* `Fill.readsAs`, `Fill.readsAs_tagged` — the objects that are read as a structure, or as the variant
  that one of their members names.
-/

namespace LayoutAudit
namespace Wire
namespace Record

variable {α β : Type}

/-- What a structure will be, given what has been read and the members that are still to come. -/
structure Prospect (r : Record α) where
  leads : List (String × Node) → r.Slots → α → Prop
  complete_of_leads {slots : r.Slots} {a : α} : leads [] slots a → r.complete slots = .ok a
  put_of_leads {name : String} {v : Node} {rest : List (String × Node)} {slots : r.Slots} {a : α} :
    name ∈ r.names → name ∉ rest.map Prod.fst → leads ((name, v) :: rest) slots a →
      ∃ next, r.put name v slots = some (.ok next) ∧ leads rest next a
  put_foreign {name : String} (v : Node) (slots : r.Slots) :
    name ∉ r.names → r.put name v slots = none
  leads_foreign {name : String} {v : Node} {rest : List (String × Node)} {slots : r.Slots} {a : α} :
    name ∉ r.names → leads ((name, v) :: rest) slots a → leads rest slots a

/-- A field has been read, is still to come, or is missing and has a default. -/
def Prospect.field (name : String) (decode : Node → Reading α) (default? : Option α) :
    (Record.field name decode default?).Prospect where
  leads rest slot a :=
    (slot = some a ∧ name ∉ rest.map Prod.fst) ∨
      (slot = none ∧ ∃ v, (name, v) ∈ rest ∧ decode v = .ok a) ∨
      (slot = none ∧ name ∉ rest.map Prod.fst ∧ default? = some a)
  complete_of_leads {slot a} h := by
    rcases h with ⟨rfl, -⟩ | ⟨-, v, hv, -⟩ | ⟨rfl, -, rfl⟩
    · rfl
    · cases hv
    · rfl
  put_of_leads {other v rest slot a} hother hnew h := by
    have hname : other = name := by simpa [Record.field] using hother
    subst hname
    rcases h with ⟨-, hgone⟩ | ⟨hslot, w, hw, hread⟩ | ⟨-, hgone, -⟩
    · exact absurd List.mem_cons_self hgone
    · -- The name does not come again, so that the member is this one.
      have hvalue : w = v := by
        rcases List.mem_cons.1 hw with hw | hw
        · exact congrArg Prod.snd hw
        · exact absurd (List.mem_map_of_mem hw) hnew
      subst hvalue
      exact ⟨some a, put_field.2 ⟨rfl, hslot, a, hread, rfl⟩, .inl ⟨rfl, hnew⟩⟩
    · exact absurd List.mem_cons_self hgone
  put_foreign {other} v slot hother := by
    have hname : other ≠ name := by simpa [Record.field] using hother
    exact put_field_eq_none_iff.2 hname
  leads_foreign {other v rest slot a} hother h := by
    have hname : other ≠ name := by simpa [Record.field] using hother
    simpa [hname.symm] using h

variable {r : Record α} {s : Record β}

/-- The fields of two structures that share no name. -/
def Prospect.and (p : r.Prospect) (q : s.Prospect) (hdisjoint : ∀ name ∈ r.names, name ∉ s.names) :
    (r.and s).Prospect where
  leads rest slots c := p.leads rest slots.1 c.1 ∧ q.leads rest slots.2 c.2
  complete_of_leads h := complete_and.2 ⟨p.complete_of_leads h.1, q.complete_of_leads h.2⟩
  put_of_leads {name v rest slots c} hname hnew h := by
    -- A member goes to the structure that has its name, and is foreign to the other.
    by_cases hfirst : name ∈ r.names
    · rcases p.put_of_leads hfirst hnew h.1 with ⟨left, hput, hleft⟩
      have hright := q.leads_foreign (hdisjoint name hfirst) h.2
      exact ⟨(left, slots.2), put_and.2 (.inl ⟨hput, rfl⟩), hleft, hright⟩
    · have hsecond : name ∈ s.names := (List.mem_append.1 hname).resolve_left hfirst
      rcases q.put_of_leads hsecond hnew h.2 with ⟨right, hput, hright⟩
      have hleft := p.leads_foreign hfirst h.1
      have hnone := p.put_foreign v slots.1 hfirst
      exact ⟨(slots.1, right), put_and.2 (.inr ⟨hnone, hput, rfl⟩), hleft, hright⟩
  put_foreign v slots hname := by
    have hneither := not_or.1 (mt List.mem_append.2 hname)
    exact put_and_eq_none_iff.2
      ⟨p.put_foreign v slots.1 hneither.1, q.put_foreign v slots.2 hneither.2⟩
  leads_foreign hname h := by
    have hneither := not_or.1 (mt List.mem_append.2 hname)
    exact ⟨p.leads_foreign hneither.1 h.1, q.leads_foreign hneither.2 h.2⟩

/-- A structure in another form. -/
def Prospect.map (f : α → β) (p : r.Prospect) : (r.map f).Prospect where
  leads rest slots b := ∃ a, p.leads rest slots a ∧ f a = b
  complete_of_leads := by
    rintro slots b ⟨a, ha, hb⟩
    exact map_ok_iff.2 ⟨a, p.complete_of_leads ha, hb⟩
  put_of_leads := by
    rintro name v rest slots b hname hnew ⟨a, ha, hb⟩
    rcases p.put_of_leads hname hnew ha with ⟨next, hput, hnext⟩
    exact ⟨next, hput, a, hnext, hb⟩
  put_foreign := p.put_foreign
  leads_foreign := by
    rintro name v rest slots b hname ⟨a, ha, hb⟩
    exact ⟨a, p.leads_foreign hname ha, hb⟩

/-! ## Reading all members -/

namespace Prospect

variable (p : r.Prospect) {members : List (String × Node)} {slots : r.Slots} {a : α}

theorem putMembers_of_leads (hnodup : (members.map Prod.fst).Nodup)
    (hskip : ∀ m ∈ members, Node.skip m.2 = .ok ()) (h : p.leads members slots a) :
    ∃ last, r.putMembers (Node.texts members) slots = .ok last ∧ r.complete last = .ok a := by
  induction members generalizing slots with
  | nil => exact ⟨slots, rfl, p.complete_of_leads h⟩
  | cons m rest ih =>
      rcases m with ⟨name, v⟩
      rcases List.nodup_cons.1 hnodup with ⟨hnew, hnodup⟩
      rcases List.forall_mem_cons.1 hskip with ⟨hfirst, hskip⟩
      -- What has a foreign name is skipped, and the rest leads where it did.
      by_cases hname : name ∈ r.names
      · rcases p.put_of_leads hname hnew h with ⟨next, hput, hnext⟩
        rcases ih hnodup hskip hnext with ⟨last, hlast, hcomplete⟩
        exact ⟨last, putMembers_cons_ok_iff.2 (.inl ⟨next, hput, hlast⟩), hcomplete⟩
      · have hnone := p.put_foreign v slots hname
        rcases ih hnodup hskip (p.leads_foreign hname h) with ⟨last, hlast, hcomplete⟩
        exact ⟨last, putMembers_cons_ok_iff.2 (.inr ⟨hnone, hfirst, hlast⟩), hcomplete⟩

theorem putSettled_of_leads (hnodup : (members.map Prod.fst).Nodup)
    (h : p.leads members slots a) :
    ∃ last, r.putSettled (Node.texts members) slots = .ok last ∧ r.complete last = .ok a := by
  induction members generalizing slots with
  | nil => exact ⟨slots, rfl, p.complete_of_leads h⟩
  | cons m rest ih =>
      rcases m with ⟨name, v⟩
      rcases List.nodup_cons.1 hnodup with ⟨hnew, hnodup⟩
      by_cases hname : name ∈ r.names
      · rcases p.put_of_leads hname hnew h with ⟨next, hput, hnext⟩
        rcases ih hnodup hnext with ⟨last, hlast, hcomplete⟩
        refine ⟨last, ?_, hcomplete⟩
        simpa [Node.texts, putSettled, Node.settledName, hput, Bind.bind, Except.bind] using hlast
      · have hnone := p.put_foreign v slots hname
        rcases ih hnodup (p.leads_foreign hname h) with ⟨last, hlast, hcomplete⟩
        refine ⟨last, ?_, hcomplete⟩
        simpa [Node.texts, putSettled, Node.settledName, hnone, Bind.bind, Except.bind] using hlast

theorem fromMembers_of_leads (hnodup : (members.map Prod.fst).Nodup)
    (hskip : ∀ m ∈ members, Node.skip m.2 = .ok ()) (h : p.leads members r.start a) :
    r.fromMembers (Node.texts members) none = .ok a := by
  rcases p.putMembers_of_leads hnodup hskip h with ⟨last, hread, hcomplete⟩
  simp [fromMembers, hread, hcomplete, Node.finish, Bind.bind, Except.bind]

theorem ofSettled_of_leads (hnodup : (members.map Prod.fst).Nodup)
    (h : p.leads members r.start a) :
    r.ofSettled (.object (Node.texts members) none) = .ok a := by
  rcases p.putSettled_of_leads hnodup h with ⟨last, hread, hcomplete⟩
  simp [ofSettled, hread, hcomplete, Bind.bind, Except.bind]

end Prospect
end Record

/-! ## Nodes that hold a value -/

namespace Node

open Json (Value)

mutual
theorem skip_ofValue : (v : Value) → skip (.ofValue v) = .ok ()
  | .null => rfl
  | .bool _ => rfl
  | .number _ => rfl
  | .string _ => rfl
  | .array items => by
      rw [ofValue, skip, skipItems_ofValues items]
      rfl
  | .object members => by
      rw [ofValue, skip, skipMembers_ofMembers members]
      rfl

theorem skipItems_ofValues : (items : List Value) → skipItems (ofValues items) = .ok ()
  | [] => rfl
  | v :: rest => by
      rw [ofValues, skipItems, skip_ofValue v]
      exact skipItems_ofValues rest

theorem skipMembers_ofMembers : (members : List (String × Value)) →
    skipMembers (ofMembers members) = .ok ()
  | [] => rfl
  | (_, v) :: rest => by
      rw [ofMembers, skipMembers, skip, skip_ofValue v]
      · exact skipMembers_ofMembers rest
      all_goals simp
end

mutual
/-- What a value holds is settled. -/
theorem settle_ofValue : (v : Value) → settle (.ofValue v) = .ok (.ofValue v)
  | .null => by simp [ofValue, settle]
  | .bool _ => by simp [ofValue, settle]
  | .number _ => by simp [ofValue, settle]
  | .string _ => by simp [ofValue, settle]
  | .array items => by
      rw [ofValue, settle, settleItems_ofValues items]
      rfl
  | .object members => by
      rw [ofValue, settle, settleMembers_ofMembers members]
      rfl

theorem settleItems_ofValues : (items : List Value) →
    settleItems (ofValues items) = .ok (ofValues items)
  | [] => rfl
  | v :: rest => by
      rw [ofValues, settleItems, settle_ofValue v, settleItems_ofValues rest]
      rfl

theorem settleMembers_ofMembers : (members : List (String × Value)) →
    settleMembers (ofMembers members) = .ok (ofMembers members)
  | [] => rfl
  | (_, v) :: rest => by
      rw [ofMembers, settleMembers, settle_ofValue v, settleMembers_ofMembers rest]
      rfl
end

def ofNamed (members : List (String × Value)) : List (String × Node) :=
  members.map fun m => (m.1, .ofValue m.2)

theorem ofMembers_eq_texts (members : List (String × Value)) :
    ofMembers members = texts (ofNamed members) := by
  induction members with
  | nil => rfl
  | cons m rest ih => exact congrArg (List.cons (.string m.1, .ofValue m.2)) ih

theorem ofNamed_names (members : List (String × Value)) :
    (ofNamed members).map Prod.fst = members.map Prod.fst := by
  simp [ofNamed, Function.comp_def]

end Node
end Wire

/-! ## Objects that hold a structure -/

namespace Json
namespace Value

open Wire (Node Reading Record)
open Wire.Record (Prospect)

variable {α β : Type} {members : List (String × Value)}

/-- In whatever order these members come, they are read as `a`. -/
def Fill (members : List (String × Value)) (r : Record α) (a : α) : Prop :=
  ∀ members', Moved members members' → ∃ p : r.Prospect, p.leads (Node.ofNamed members') r.start a

namespace Fill

theorem given {name : String} {v : Value} {decode : Node → Reading α} {default? : Option α} {a : α}
    (hmem : (name, v) ∈ members) (hread : v.ReadsAs decode a) :
    Fill members (.field name decode default?) a := by
  intro members' hmoved
  rcases hmoved.exists_mem hmem with ⟨w, hsame, hw⟩
  have hnode : (name, Node.ofValue w) ∈ Node.ofNamed members' :=
    List.mem_map.2 ⟨(name, w), hw, rfl⟩
  exact ⟨.field name decode default?, .inr (.inl ⟨rfl, .ofValue w, hnode, hread w hsame⟩)⟩

/-- What is left out of an object is what its default stands for. -/
theorem omitted {name : String} {decode : Node → Reading α} {a : α}
    (hgone : name ∉ members.map Prod.fst) : Fill members (.field name decode (some a)) a := by
  intro members' hmoved
  have hnone : name ∉ (Node.ofNamed members').map Prod.fst := by
    rw [Node.ofNamed_names]
    exact mt hmoved.names_perm.mem_iff.2 hgone
  exact ⟨.field name decode (some a), .inr (.inr ⟨rfl, hnone, rfl⟩)⟩

theorem and {r : Record α} {s : Record β} {a : α} {b : β}
    (hdisjoint : ∀ name ∈ r.names, name ∉ s.names) (hr : Fill members r a)
    (hs : Fill members s b) : Fill members (r.and s) (a, b) := by
  intro members' hmoved
  rcases hr members' hmoved with ⟨p, hp⟩
  rcases hs members' hmoved with ⟨q, hq⟩
  exact ⟨p.and q hdisjoint, hp, hq⟩

theorem map {r : Record α} {f : α → β} {a : α} {b : β} (hr : Fill members r a) (hb : f a = b) :
    Fill members (r.map f) b := by
  intro members' hmoved
  rcases hr members' hmoved with ⟨p, hp⟩
  exact ⟨p.map f, a, hp, hb⟩

variable {r : Record α} {a : α}

theorem readsAs (h : Fill members r a) (hnodup : (members.map Prod.fst).Nodup) :
    (Value.object members).ReadsAs r.decode a := by
  intro w hw
  rcases hw.object_cases with ⟨members', rfl, hmoved⟩
  rcases h members' hmoved with ⟨p, hp⟩
  have hnames : ((Node.ofNamed members').map Prod.fst).Nodup := by
    rw [Node.ofNamed_names]
    exact hmoved.names_perm.nodup_iff.1 hnodup
  have hskip : ∀ m ∈ Node.ofNamed members', Node.skip m.2 = .ok () := by
    intro m hm
    rcases List.mem_map.1 hm with ⟨m, -, rfl⟩
    exact Node.skip_ofValue m.2
  have hread := p.fromMembers_of_leads hnames hskip hp
  rw [Node.ofValue, Node.ofMembers_eq_texts]
  exact hread

end Fill
end Value
end Json

/-! ## Objects that hold a variant -/

namespace Wire
namespace Tagged

open Json (Value)

variable {tag : String} {names : List String}

theorem splitMembers_others {members : List (String × Value)} (htag : tag ∉ members.map Prod.fst)
    (found : Option String) :
    splitMembers tag names (Node.ofMembers members) found =
      .ok (found, Node.ofMembers members) := by
  induction members with
  | nil => rfl
  | cons m rest ih =>
      have hparts : tag ≠ m.1 ∧ tag ∉ rest.map Prod.fst := by simpa using htag
      have hother : (m.1 == tag) = false := by simpa using hparts.1.symm
      simp [Node.ofMembers, splitMembers, Node.settle, Node.settle_ofValue, hother, ih hparts.2,
        Bind.bind, Except.bind, Pure.pure, Except.pure]

/-- The member that names the variant is taken out of its place. -/
theorem splitMembers_tag {before after : List (String × Value)} {name : String}
    (hname : name ∈ names) (hbefore : tag ∉ before.map Prod.fst)
    (hafter : tag ∉ after.map Prod.fst) :
    splitMembers tag names (Node.ofMembers (before ++ (tag, .string name) :: after)) none =
      .ok (some name, Node.ofMembers (before ++ after)) := by
  induction before with
  | nil =>
      simp [Node.ofMembers, Node.ofValue, splitMembers, Node.settle, Node.asText, Node.named, hname,
        splitMembers_others hafter, Bind.bind, Except.bind]
  | cons m rest ih =>
      have hparts : tag ≠ m.1 ∧ tag ∉ rest.map Prod.fst := by simpa using hbefore
      have hother : (m.1 == tag) = false := by simpa using hparts.1.symm
      simp [Node.ofMembers, splitMembers, Node.settle, Node.settle_ofValue, hother, ih hparts.2,
        Bind.bind, Except.bind, Pure.pure, Except.pure]

end Tagged
end Wire

namespace Json
namespace Value

open Wire (Node Reading Record)

variable {α : Type} {members members' : List (String × Value)}

theorem Moved.exists_split {m : String × Value} (h : Moved (m :: members) members') :
    ∃ before w after, members' = before ++ (m.1, w) :: after ∧ m.2.Same w ∧
      Moved members (before ++ after) := by
  rcases h with ⟨inPlace, hsame, hperm⟩
  cases hsame with
  | @cons _ first _ later hfirst hlater =>
      rcases List.append_of_mem (hperm.mem_iff.1 List.mem_cons_self) with ⟨before, after, rfl⟩
      have hrest : later.Perm (before ++ after) :=
        List.Perm.cons_inv (hperm.trans List.perm_middle)
      refine ⟨before, first.2, after, ?_, hfirst.2, later, hlater, hrest⟩
      rw [hfirst.1]

theorem Moved.singleton {m : String × Value} (h : Moved [m] members') :
    ∃ w, m.2.Same w ∧ members' = [(m.1, w)] := by
  rcases h.exists_split with ⟨before, w, after, rfl, hw, hrest⟩
  have hlength : 0 = (before ++ after).length := by simpa using hrest.names_perm.length_eq
  rcases List.append_eq_nil_iff.1 (List.eq_nil_of_length_eq_zero hlength.symm) with ⟨rfl, rfl⟩
  exact ⟨w, hw, rfl⟩

theorem Moved.pair {m₁ m₂ : String × Value} (h : Moved [m₁, m₂] members') :
    ∃ w₁ w₂, m₁.2.Same w₁ ∧ m₂.2.Same w₂ ∧
      (members' = [(m₁.1, w₁), (m₂.1, w₂)] ∨ members' = [(m₂.1, w₂), (m₁.1, w₁)]) := by
  rcases h.exists_split with ⟨before, w₁, after, rfl, hw₁, hrest⟩
  rcases hrest.singleton with ⟨w₂, hw₂, hother⟩
  refine ⟨w₁, w₂, hw₁, hw₂, ?_⟩
  rcases List.append_eq_singleton_iff.1 hother with ⟨rfl, rfl⟩ | ⟨rfl, rfl⟩
  · exact .inl rfl
  · exact .inr rfl

theorem Fill.readsAs_tagged {tag name : String} {names : List String} {fields : String → Record α}
    {a : α} (h : Fill members (fields name) a) (hname : name ∈ names)
    (hnodup : (tag :: members.map Prod.fst).Nodup) :
    (Value.object ((tag, .string name) :: members)).ReadsAs
      (fun n => do
        let (kind, rest) ← Wire.Tagged.split tag names n
        (fields kind).ofSettled rest) a := by
  intro w hw
  rcases List.nodup_cons.1 hnodup with ⟨htag, hnodup⟩
  rcases hw.object_cases with ⟨members', rfl, hmoved⟩
  -- The name of the variant may stand anywhere between the other members.
  rcases hmoved.exists_split with ⟨before, v, after, rfl, hv, hothers⟩
  cases hv
  rcases h (before ++ after) hothers with ⟨p, hp⟩
  have hnames := hothers.names_perm
  have hgone : tag ∉ (before ++ after).map Prod.fst := mt hnames.mem_iff.2 htag
  rw [List.map_append, List.mem_append, not_or] at hgone
  have hsplit := Wire.Tagged.splitMembers_tag hname hgone.1 hgone.2
  have hread : (fields name).ofSettled (.object (Node.ofMembers (before ++ after)) none) = .ok a := by
    rw [Node.ofMembers_eq_texts]
    refine p.ofSettled_of_leads ?_ hp
    rw [Node.ofNamed_names]
    exact hnames.nodup_iff.1 hnodup
  simp [Node.ofValue, Wire.Tagged.split, hsplit, Node.finish, Node.expect, hread, Bind.bind,
    Except.bind, Pure.pure, Except.pure]

end Value
end Json
end LayoutAudit
