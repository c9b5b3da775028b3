import Mathlib.Data.List.Forall2
import Mathlib.Data.List.Perm.Basic
import Mathlib.Data.String.Basic
import LayoutAudit.Wire.Decode

/-!
# Proofs.Wire.Reading — what written values are read as

Who writes an object may choose the order of its members: a hash map has none, and data that passes
through a sorted map comes back sorted.  So a value that was written is compared with what is read
back up to that order, at every depth.

* `Value.Same` — the same data, with the members of objects in any order;
* `Value.ReadsAs` — whatever the order, a decoder reads the value as this;
* `readsAs_text`, `readsAs_float`, `readsAs_natural`, `readsAs_option`, `readsAs_list`,
  `readsAs_entries` — leaves and containers;
* `Value.sorted_eq_of_perm` — sorting by name leads back to entries that were sorted.
-/

namespace LayoutAudit
namespace Json
namespace Value

/-- The same data; the members of objects may come in another order. -/
inductive Same : Value → Value → Prop where
  | null : Same .null .null
  | bool (b : Bool) : Same (.bool b) (.bool b)
  | number (n : Number) : Same (.number n) (.number n)
  | string (s : String) : Same (.string s) (.string s)
  | array {items items' : List Value} :
      List.Forall₂ Same items items' → Same (.array items) (.array items')
  | object {members inPlace members' : List (String × Value)} :
      members.map Prod.fst = inPlace.map Prod.fst →
      List.Forall₂ Same (members.map Prod.snd) (inPlace.map Prod.snd) →
      inPlace.Perm members' → Same (.object members) (.object members')

mutual
theorem Same.refl : (v : Value) → v.Same v
  | .null => .null
  | .bool b => .bool b
  | .number n => .number n
  | .string s => .string s
  | .array items => .array (same_items items)
  | .object members => .object rfl (same_members members) (List.Perm.refl members)

theorem same_items : (items : List Value) → List.Forall₂ Same items items
  | [] => .nil
  | v :: rest => .cons (Same.refl v) (same_items rest)

theorem same_members : (members : List (String × Value)) →
    List.Forall₂ Same (members.map Prod.snd) (members.map Prod.snd)
  | [] => .nil
  | (_, v) :: rest => .cons (Same.refl v) (same_members rest)
end

/-- Members of the same names, one for one, with the same data. -/
def SameMember (m m' : String × Value) : Prop := m.1 = m'.1 ∧ m.2.Same m'.2

theorem forall₂_sameMember {members inPlace : List (String × Value)}
    (hnames : members.map Prod.fst = inPlace.map Prod.fst)
    (hvalues : List.Forall₂ Same (members.map Prod.snd) (inPlace.map Prod.snd)) :
    List.Forall₂ SameMember members inPlace := by
  induction members generalizing inPlace with
  | nil =>
      cases inPlace with
      | nil => exact .nil
      | cons m rest => cases hnames
  | cons m rest ih =>
      cases inPlace with
      | nil => cases hnames
      | cons m' rest' =>
          simp only [List.map_cons, List.cons.injEq] at hnames hvalues
          rcases List.forall₂_cons.1 hvalues with ⟨hfirst, hlater⟩
          exact .cons ⟨hnames.1, hfirst⟩ (ih hnames.2 hlater)

theorem names_of_forall₂ {members inPlace : List (String × Value)}
    (h : List.Forall₂ SameMember members inPlace) :
    members.map Prod.fst = inPlace.map Prod.fst := by
  induction h with
  | nil => rfl
  | cons hfirst _ ih => exact congrArg₂ List.cons hfirst.1 ih

theorem exists_mem_of_forall₂ {members inPlace : List (String × Value)}
    (h : List.Forall₂ SameMember members inPlace) {m : String × Value} (hm : m ∈ members) :
    ∃ m' ∈ inPlace, SameMember m m' := by
  induction h with
  | nil => cases hm
  | cons hfirst _ ih =>
      rcases List.mem_cons.1 hm with rfl | hm
      · exact ⟨_, List.mem_cons_self, hfirst⟩
      · rcases ih hm with ⟨m', hm', hsame⟩
        exact ⟨m', List.mem_cons_of_mem _ hm', hsame⟩

/-- Members with the same data, in any order. -/
def Moved (members members' : List (String × Value)) : Prop :=
  ∃ inPlace, List.Forall₂ SameMember members inPlace ∧ inPlace.Perm members'

theorem Same.object_cases {members : List (String × Value)} {w : Value}
    (h : (Value.object members).Same w) : ∃ members', w = .object members' ∧ Moved members members' := by
  cases h with
  | object hnames hvalues hperm => exact ⟨_, rfl, _, forall₂_sameMember hnames hvalues, hperm⟩

theorem Moved.names_perm {members members' : List (String × Value)} (h : Moved members members') :
    (members.map Prod.fst).Perm (members'.map Prod.fst) := by
  rcases h with ⟨inPlace, hsame, hperm⟩
  rw [names_of_forall₂ hsame]
  exact hperm.map Prod.fst

theorem Moved.exists_mem {members members' : List (String × Value)} (h : Moved members members')
    {name : String} {v : Value} (hv : (name, v) ∈ members) :
    ∃ w, v.Same w ∧ (name, w) ∈ members' := by
  rcases h with ⟨inPlace, hsame, hperm⟩
  rcases exists_mem_of_forall₂ hsame hv with ⟨⟨name', w⟩, hm, rfl, hw⟩
  exact ⟨w, hw, hperm.mem_iff.1 hm⟩

/-! ## Sorting by name -/

section Sorting

variable {α : Type}

/-- Each name comes before those of later members, and so only once. -/
def SortedByName (members : List (String × α)) : Prop :=
  members.Pairwise fun m m' => m.1 < m'.1

theorem SortedByName.nodup {members : List (String × α)} (h : SortedByName members) :
    (members.map Prod.fst).Nodup :=
  List.pairwise_map.2 (h.imp fun hlt => hlt.ne)

theorem insertMember_perm {name : String} (v : α) {members : List (String × α)}
    (hnew : name ∉ members.map Prod.fst) :
    (insertMember name v members).Perm ((name, v) :: members) := by
  induction members with
  | nil => exact List.Perm.refl _
  | cons m rest ih =>
      have hparts : name ≠ m.1 ∧ name ∉ rest.map Prod.fst := by simpa using hnew
      by_cases hlt : name < m.1
      · simp [insertMember, hlt]
      · simp only [insertMember, hlt, hparts.1, if_false]
        exact ((ih hparts.2).cons m).trans (List.Perm.swap (name, v) m rest)

theorem mem_insertMember {name : String} {v : α} {members : List (String × α)} {m : String × α}
    (h : m ∈ insertMember name v members) : m = (name, v) ∨ m ∈ members := by
  induction members with
  | nil => exact .inl (List.mem_singleton.1 h)
  | cons first rest ih =>
      unfold insertMember at h
      split_ifs at h
      · exact List.mem_cons.1 h
      · exact (List.mem_cons.1 h).imp_right (List.mem_cons_of_mem first)
      · rcases List.mem_cons.1 h with rfl | h
        · exact .inr List.mem_cons_self
        · exact (ih h).imp_right (List.mem_cons_of_mem first)

/-- A member is put at its place, or in the place of the one that has its name. -/
theorem SortedByName.put {name : String} (v : α) {members : List (String × α)}
    (h : SortedByName members) : SortedByName (insertMember name v members) := by
  induction members with
  | nil => exact List.pairwise_singleton _ _
  | cons first rest ih =>
      rcases List.pairwise_cons.1 h with ⟨hfirst, hrest⟩
      unfold insertMember
      split_ifs with hlt heq
      · refine List.pairwise_cons.2 ⟨fun m hm => ?_, h⟩
        rcases List.mem_cons.1 hm with rfl | hm
        · exact hlt
        · exact hlt.trans (hfirst m hm)
      · exact List.pairwise_cons.2 ⟨fun m hm => heq ▸ hfirst m hm, hrest⟩
      · have hafter : first.1 < name := lt_of_le_of_ne (not_lt.1 hlt) (Ne.symm heq)
        refine List.pairwise_cons.2 ⟨fun m hm => ?_, ih hrest⟩
        rcases mem_insertMember hm with rfl | hm
        · exact hafter
        · exact hfirst m hm

theorem SortedByName.foldl_put {acc : List (String × α)} (members : List (String × α))
    (h : SortedByName acc) :
    SortedByName (members.foldl (fun acc m => insertMember m.1 m.2 acc) acc) := by
  induction members generalizing acc with
  | nil => exact h
  | cons m rest ih => exact ih (h.put m.2)

theorem mem_foldl_insertMember {acc members : List (String × α)} {m : String × α}
    (h : m ∈ members.foldl (fun acc m => insertMember m.1 m.2 acc) acc) :
    m ∈ acc ∨ m ∈ members := by
  induction members generalizing acc with
  | nil => exact .inl h
  | cons first rest ih =>
      rcases ih h with hput | hrest
      · rcases mem_insertMember hput with rfl | hold
        · exact .inr List.mem_cons_self
        · exact .inl hold
      · exact .inr (List.mem_cons_of_mem first hrest)

/-- Members of new names are put into their places one by one. -/
theorem foldl_insertMember_perm {acc members : List (String × α)}
    (hnodup : (members.map Prod.fst).Nodup) (hnew : ∀ m ∈ members, m.1 ∉ acc.map Prod.fst) :
    (members.foldl (fun acc m => insertMember m.1 m.2 acc) acc).Perm (acc ++ members) := by
  induction members generalizing acc with
  | nil => simp
  | cons m rest ih =>
      rcases List.nodup_cons.1 hnodup with ⟨hfresh, hnodup⟩
      have hput := insertMember_perm m.2 (hnew m List.mem_cons_self)
      -- Later names are new still: they are neither the one just put nor among the earlier ones.
      have hlater : ∀ m' ∈ rest, m'.1 ∉ (insertMember m.1 m.2 acc).map Prod.fst := by
        intro m' hm' hmem
        rcases List.mem_cons.1 ((hput.map Prod.fst).mem_iff.1 hmem) with hname | hmem
        · exact hfresh (hname ▸ List.mem_map_of_mem hm')
        · exact hnew m' (List.mem_cons_of_mem m hm') hmem
      calc
        List.Perm _ (insertMember m.1 m.2 acc ++ rest) := ih hnodup hlater
        List.Perm _ (m :: acc ++ rest) := hput.append_right rest
        List.Perm _ (acc ++ m :: rest) := List.perm_middle.symm

theorem sortedByName_sorted (members : List (String × α)) : SortedByName (sorted members) :=
  .foldl_put members List.Pairwise.nil

theorem mem_of_mem_sorted {members : List (String × α)} {m : String × α}
    (h : m ∈ sorted members) : m ∈ members :=
  (mem_foldl_insertMember h).resolve_left List.not_mem_nil

theorem sorted_perm {members : List (String × α)} (hnodup : (members.map Prod.fst).Nodup) :
    (sorted members).Perm members :=
  foldl_insertMember_perm hnodup (by simp)

/-- Sorting brings the members of a sorted list back into their order. -/
theorem sorted_eq_of_perm {members entries : List (String × α)} (h : SortedByName entries)
    (hperm : members.Perm entries) : sorted members = entries := by
  have hnodup : (members.map Prod.fst).Nodup := (hperm.map Prod.fst).nodup_iff.2 h.nodup
  refine List.Perm.eq_of_pairwise ?_ (sortedByName_sorted members) h
    ((sorted_perm hnodup).trans hperm)
  intro m m' _ _ hlt hgt
  exact absurd hgt hlt.asymm

end Sorting

/-! ## Reading -/

open Wire (Node Reading)

variable {α : Type}

/-- In whatever order the members of its objects come, the value is read as `a`. -/
def ReadsAs (v : Value) (decode : Node → Reading α) (a : α) : Prop :=
  ∀ w, v.Same w → decode (.ofValue w) = .ok a

theorem readsAs_text (s : String) : (Value.string s).ReadsAs Node.asText s := by
  intro w hw
  cases hw
  rfl

theorem readsAs_bool (b : Bool) : (Value.bool b).ReadsAs Node.asBool b := by
  intro w hw
  cases hw
  rfl

theorem readsAs_natural {n bound : Nat} (h : n < bound) :
    (Value.nat n).ReadsAs (Node.asNatural bound) n := by
  intro w hw
  cases hw
  have hfits : (0 : Int) ≤ n ∧ (n : Int) < bound := ⟨Int.natCast_nonneg n, Int.ofNat_lt.2 h⟩
  simp [Node.ofValue, Node.asNatural, hfits]

theorem readsAs_float {x : Float} (h : x.isFinite) : (Value.float x).ReadsAs Node.asFloat x := by
  intro w hw
  rw [Value.float, if_pos h] at hw
  cases hw
  rfl

theorem Same.eq_null {v : Value} (h : v.Same .null) : v = .null := by
  cases h
  rfl

/-- What is not `null` is there. -/
theorem asOption_ofValue {w : Value} (hw : w ≠ .null) (decode : Node → Reading α) :
    Node.asOption decode (.ofValue w) = do return some (← decode (.ofValue w)) := by
  cases w with
  | null => exact absurd rfl hw
  | bool b => rfl
  | number n => rfl
  | string s => rfl
  | array items => rfl
  | object members => rfl

theorem ReadsAs.some {v : Value} {decode : Node → Reading α} {a : α} (h : v.ReadsAs decode a)
    (hv : v ≠ .null) : v.ReadsAs (Node.asOption decode) (Option.some a) := by
  intro w hw
  have hpresent : w ≠ .null := fun hnull => hv (Same.eq_null (hnull ▸ hw))
  rw [asOption_ofValue hpresent, h w hw]
  rfl

theorem readsAs_option {encode : α → Value} {decode : Node → Reading α} {o : Option α}
    (h : ∀ a, o = Option.some a → (encode a).ReadsAs decode a ∧ encode a ≠ .null) :
    (Value.option encode o).ReadsAs (Node.asOption decode) o := by
  cases o with
  | none =>
      intro w hw
      cases hw
      rfl
  | some a => exact (h a rfl).1.some (h a rfl).2

theorem decodeEach_of_same {β : Type} {encode : β → Value} {decode : Node → Reading α} {f : β → α}
    {bs : List β} (h : ∀ b ∈ bs, (encode b).ReadsAs decode (f b)) {items : List Value}
    (hsame : List.Forall₂ Same (bs.map encode) items) :
    Node.decodeEach decode (Node.ofValues items) = .ok (bs.map f) := by
  induction bs generalizing items with
  | nil =>
      cases hsame
      rfl
  | cons b rest ih =>
      rcases List.forall_mem_cons.1 h with ⟨hfirst, hrest⟩
      cases hsame with
      | cons hitem hlater =>
          simp only [Node.ofValues, Node.decodeEach, hfirst _ hitem, ih hrest hlater]
          rfl

/-- Items may be read as something else than they were written from. -/
theorem readsAs_list_map {β : Type} {encode : β → Value} {decode : Node → Reading α} {f : β → α}
    {bs : List β} (h : ∀ b ∈ bs, (encode b).ReadsAs decode (f b)) :
    (Value.array (bs.map encode)).ReadsAs (Node.asList decode) (bs.map f) := by
  intro w hw
  cases hw with
  | array hsame =>
      have hread := decodeEach_of_same h hsame
      simp [Node.ofValue, Node.asList, Node.asItems, Node.finish, hread, Bind.bind, Except.bind,
        Pure.pure, Except.pure]

theorem readsAs_list {encode : α → Value} {decode : Node → Reading α} {as : List α}
    (h : ∀ a ∈ as, (encode a).ReadsAs decode a) :
    (Value.array (as.map encode)).ReadsAs (Node.asList decode) as := by
  simpa using readsAs_list_map (f := id) h

theorem readsAs_texts (texts : List String) :
    (Value.strings texts).ReadsAs (Node.asList Node.asText) texts :=
  readsAs_list fun s _ => readsAs_text s

theorem decodeMembers_of_forall₂ {decode : Node → Reading α} {members : List (String × Value)}
    {entries : List (String × α)}
    (h : List.Forall₂ (fun m e => m.1 = e.1 ∧ decode (.ofValue m.2) = .ok e.2) members entries) :
    Node.decodeMembers decode (Node.ofMembers members) = .ok entries := by
  induction h with
  | nil => rfl
  | cons hfirst _ ih =>
      simp only [Node.ofMembers, Node.decodeMembers, Node.asText, hfirst.1, hfirst.2, ih]
      rfl

/-- Entries that are sorted by name are read back, in whatever order they were written. -/
theorem readsAs_entries (encode : α → Value) {decode : Node → Reading α}
    {entries : List (String × α)} (hsorted : SortedByName entries)
    (h : ∀ e ∈ entries, (encode e.2).ReadsAs decode e.2) :
    (Value.object (entries.map fun e => (e.1, encode e.2))).ReadsAs (Node.asEntries decode)
      entries := by
  intro w hw
  rcases hw.object_cases with ⟨members, rfl, inPlace, hsame, hperm⟩
  rw [List.forall₂_map_left_iff] at hsame
  have hread : List.Forall₂ (fun m e => m.1 = e.1 ∧ decode (.ofValue m.2) = .ok e.2) inPlace
      entries :=
    (((List.forall₂_and_left entries inPlace).2 ⟨h, hsame⟩).imp fun e m hm =>
      ⟨hm.2.1.symm, hm.1 m.2 hm.2.2⟩).flip
  -- The entries are read in the order in which they come, and sorted afterwards.
  rcases List.perm_comp_forall₂ hperm.symm hread with ⟨found, hfound, hback⟩
  have hmembers := decodeMembers_of_forall₂ hfound
  simp [Node.ofValue, Node.asEntries, Node.asMembers, Node.finish, hmembers, Bind.bind,
    Except.bind, Pure.pure, Except.pure, sorted_eq_of_perm hsorted hback]

end Value
end Json
end LayoutAudit
