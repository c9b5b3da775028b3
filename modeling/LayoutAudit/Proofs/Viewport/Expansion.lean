import Mathlib.Data.List.Infix
import Mathlib.Data.List.Nodup
import LayoutAudit.Proofs.Viewport.Grammar

/-!
# Proofs.Viewport.Expansion — what several tokens stand for

Tokens are expanded one after the other, and the first that stands for nothing is the failure of
all.  A viewport is left out if one of its name has come before, from the same token or from an
earlier one.

* `Distinct.FirstsOf` — one item of each name, namely the first, in the order of the list;
* `Distinct.firsts_eq_iff` — there is one such list only, and it is the one that is computed;
* `Distinct.firsts_prefix` — later items change nothing about what earlier ones leave;
* `Catalog.expand_ok_iff`, `Catalog.expand_error_iff` — what tokens expand to, and how they fail;
* `Catalog.expansion_of_tokens` — all of this, and that the result stands for itself.
-/

namespace LayoutAudit

/-! ## The first of each name -/

namespace Distinct

variable {α : Type} {name : α → String} {as bs : List α}

/-- The items of a list that are the first of their name, one for each name and in the order in
which the names begin. -/
structure FirstsOf (name : α → String) (as bs : List α) : Prop where
  distinct : (bs.map name).Nodup
  complete : ∀ a ∈ as, name a ∈ bs.map name
  first : ∀ b ∈ bs, as.find? (name · == name b) = some b
  ordered : bs.Pairwise fun b b' =>
    as.findIdx (name · == name b) < as.findIdx (name · == name b')

namespace FirstsOf

theorem mem (h : FirstsOf name as bs) {b : α} (hb : b ∈ bs) : b ∈ as :=
  List.mem_of_find?_eq_some (h.first b hb)

/-- What is behind an item of the name does not matter to where the name begins. -/
theorem findIdx_append_of_mem {key : String} (hkey : key ∈ as.map name) (more : List α) :
    (as ++ more).findIdx (name · == key) = as.findIdx (name · == key) := by
  rcases List.mem_map.1 hkey with ⟨a, ha, rfl⟩
  have hbefore : as.findIdx (name · == name a) < as.length :=
    List.findIdx_lt_length.2 ⟨a, ha, beq_self_eq_true _⟩
  rw [List.findIdx_append, if_pos hbefore]

/-- More items leave the items that were first as they are, where they are. -/
theorem first_append (h : FirstsOf name as bs) (more : List α) :
    (∀ b ∈ bs, (as ++ more).find? (name · == name b) = some b) ∧
      bs.Pairwise fun b b' =>
        (as ++ more).findIdx (name · == name b) < (as ++ more).findIdx (name · == name b') := by
  constructor
  · intro b hb
    rw [List.find?_append, h.first b hb, Option.some_or]
  · refine h.ordered.imp_of_mem fun {b b'} hb hb' hlt => ?_
    rwa [findIdx_append_of_mem (List.mem_map_of_mem (h.mem hb)),
      findIdx_append_of_mem (List.mem_map_of_mem (h.mem hb'))]

theorem concat_of_mem (h : FirstsOf name as bs) {a : α} (ha : name a ∈ as.map name) :
    FirstsOf name (as ++ [a]) bs where
  distinct := h.distinct
  complete := by
    intro b hb
    rcases List.mem_append.1 hb with hold | hnew
    · exact h.complete b hold
    · rcases List.mem_map.1 ha with ⟨c, hc, hname⟩
      rw [List.mem_singleton.1 hnew, ← hname]
      exact h.complete c hc
  first := (h.first_append [a]).1
  ordered := (h.first_append [a]).2

theorem concat_of_not_mem (h : FirstsOf name as bs) {a : α} (ha : name a ∉ as.map name) :
    FirstsOf name (as ++ [a]) (bs ++ [a]) := by
  have hnew : ∀ b ∈ as, name b ≠ name a := fun b hb heq => ha (heq ▸ List.mem_map_of_mem hb)
  have hplace : (as ++ [a]).findIdx (name · == name a) = as.length := by
    have hnone : as.findIdx (name · == name a) = as.length :=
      List.findIdx_eq_length.2 fun b hb => by simpa using hnew b hb
    rw [List.findIdx_append, hnone]
    simp
  refine ⟨?_, ?_, ?_, ?_⟩
  · rw [List.map_append, List.nodup_append]
    refine ⟨h.distinct, List.nodup_singleton _, ?_⟩
    intro key hkey last hlast heq
    rcases List.mem_map.1 hkey with ⟨b, hb, rfl⟩
    exact hnew b (h.mem hb) (heq.trans (by simpa using hlast))
  · intro b hb
    rw [List.map_append]
    rcases List.mem_append.1 hb with hold | hlast
    · exact List.mem_append_left _ (h.complete b hold)
    · rw [List.mem_singleton.1 hlast]
      exact List.mem_append_right _ (List.mem_singleton_self _)
  · intro b hb
    rcases List.mem_append.1 hb with hold | hlast
    · exact (h.first_append [a]).1 b hold
    · have hnone : as.find? (name · == name a) = none :=
        List.find?_eq_none.2 fun b hb => by simpa using hnew b hb
      rw [List.mem_singleton.1 hlast, List.find?_append, hnone]
      simp
  · refine List.pairwise_append.2 ⟨(h.first_append [a]).2, List.pairwise_singleton _ _, ?_⟩
    intro b hb last hlast
    -- The names of the other items begin within the list, and this one behind it.
    rw [List.mem_singleton.1 hlast, hplace, findIdx_append_of_mem (List.mem_map_of_mem (h.mem hb))]
    exact List.findIdx_lt_length.2 ⟨b, h.mem hb, beq_self_eq_true _⟩

/-- There are no two such lists: they have the same members, and these have their places. -/
theorem unique {bs' : List α} (h : FirstsOf name as bs) (h' : FirstsOf name as bs') : bs = bs' := by
  -- Each list holds the item that is the first of its name, and these are the same items.
  have hsub {cs cs' : List α} (hcs : FirstsOf name as cs) (hcs' : FirstsOf name as cs') :
      ∀ c ∈ cs, c ∈ cs' := by
    intro c hc
    rcases List.mem_map.1 (hcs'.complete c (hcs.mem hc)) with ⟨c', hc', hname⟩
    have hfirst := hcs'.first c' hc'
    rw [hname, hcs.first c hc] at hfirst
    rwa [Option.some.inj hfirst]
  have hperm : bs.Perm bs' :=
    (List.perm_ext_iff_of_nodup (List.Nodup.of_map _ h.distinct)
      (List.Nodup.of_map _ h'.distinct)).2 fun b => ⟨hsub h h' b, hsub h' h b⟩
  exact hperm.eq_of_pairwise (fun _ _ _ _ hlt hgt => absurd hlt (Nat.lt_asymm hgt)) h.ordered
    h'.ordered

end FirstsOf

theorem firsts_firstsOf (name : α → String) (as : List α) : FirstsOf name as (firsts name as) := by
  induction as using List.reverseRecOn with
  | nil => exact ⟨List.nodup_nil, by simp, by simp [firsts, firstsAfter], .nil⟩
  | append_singleton as a ih =>
      rw [firsts_concat]
      by_cases ha : name a ∈ as.map name
      · rw [if_pos ha]
        exact ih.concat_of_mem ha
      · rw [if_neg ha]
        exact ih.concat_of_not_mem ha

theorem firsts_eq_iff : firsts name as = bs ↔ FirstsOf name as bs :=
  ⟨fun h => h ▸ firsts_firstsOf name as, fun h => (firsts_firstsOf name as).unique h⟩

theorem firsts_prefix (as more : List α) : firsts name as <+: firsts name (as ++ more) := by
  induction more using List.reverseRecOn with
  | nil => rw [List.append_nil]
  | append_singleton more a ih =>
      rw [← List.append_assoc, firsts_concat]
      by_cases ha : name a ∈ (as ++ more).map name
      · rwa [if_pos ha]
      · rw [if_neg ha]
        exact ih.trans (List.prefix_append _ _)

end Distinct

/-! ## Several tokens -/

namespace Catalog

open Distinct (FirstsOf)

variable {c : Catalog} {tokens : List String}

theorem expand_ok_iff {vs : List Viewport} :
    c.expand tokens = .ok vs ↔
      ∃ parts, List.Forall₂ (fun token part => c.viewports token = .ok part) tokens parts ∧
        FirstsOf Viewport.name parts.flatten vs := by
  constructor
  · intro h
    rcases exists_of_expand h with ⟨parts, hparts, hvs⟩
    exact ⟨parts, mapM_ok_iff.1 hparts, Distinct.firsts_eq_iff.1 hvs⟩
  · rintro ⟨parts, hparts, hvs⟩
    rw [expand, mapM_ok_iff.2 hparts, ← Distinct.firsts_eq_iff.2 hvs]
    rfl

theorem expand_error_iff {e : TokenError} :
    c.expand tokens = .error e ↔
      ∃ before token after, tokens = before ++ token :: after ∧
        (∀ token ∈ before, ∃ vs, c.viewports token = .ok vs) ∧ c.viewports token = .error e := by
  rw [← mapM_error_iff]
  exact map_error_iff

theorem exists_expand_error_iff :
    (∃ e, c.expand tokens = .error e) ↔ ∃ token ∈ tokens, ∃ e, c.viewports token = .error e := by
  have herror {α : Type} (step : Except TokenError α) :
      (∃ e, step = .error e) ↔ ¬ ∃ a, step = .ok a := by
    cases step <;> simp
  have hexpand : (∃ vs, c.expand tokens = .ok vs) ↔ ∃ parts, tokens.mapM c.viewports = .ok parts :=
    exists_map_ok_iff
  simp only [herror, hexpand, exists_mapM_ok_iff, not_forall, exists_prop]

theorem expand_prefix {more : List String} {ws : List Viewport}
    (h : c.expand (tokens ++ more) = .ok ws) : ∃ vs, c.expand tokens = .ok vs ∧ vs <+: ws := by
  rcases exists_of_expand h with ⟨parts, hparts, rfl⟩
  rw [List.mapM_append] at hparts
  rcases exists_of_bind_ok hparts with ⟨front, hfront, hparts⟩
  rcases exists_of_map_ok hparts with ⟨back, -, rfl⟩
  refine ⟨Distinct.firsts Viewport.name front.flatten, ?_, ?_⟩
  · rw [expand, hfront]
    rfl
  · rw [List.flatten_append]
    exact Distinct.firsts_prefix _ _

/-- Viewports with names of their own are what their tokens stand for. -/
theorem expand_map_token {vs : List Viewport} (hnames : (vs.map Viewport.name).Nodup)
    (htokens : ∀ v ∈ vs, c.viewports v.token = .ok [v]) :
    c.expand (vs.map Viewport.token) = .ok vs := by
  refine expand_ok_iff.2 ⟨vs.map ([·]), ?_, ?_⟩
  · rw [List.forall₂_map_left_iff, List.forall₂_map_right_iff]
    exact List.forall₂_same.2 htokens
  · rw [← List.flatMap_def, List.flatMap_singleton']
    exact Distinct.firsts_eq_iff.1 (Distinct.firsts_of_nodup hnames)

/-- What any tokens expand to in any catalog. -/
theorem expansion_of_tokens (c : Catalog) (tokens : List String) :
    -- They fail exactly if one of them does, and with what is wrong with the first such token.
    ((∃ e, c.expand tokens = .error e) ↔ ∃ token ∈ tokens, ∃ e, c.viewports token = .error e) ∧
    (∀ e, c.expand tokens = .error e ↔
      ∃ before token after, tokens = before ++ token :: after ∧
        (∀ token ∈ before, ∃ vs, c.viewports token = .ok vs) ∧ c.viewports token = .error e) ∧
    -- Otherwise one viewport of each name is left, the first that a token stands for.
    (∀ vs, c.expand tokens = .ok vs ↔
      ∃ parts, List.Forall₂ (fun token part => c.viewports token = .ok part) tokens parts ∧
        FirstsOf Viewport.name parts.flatten vs) ∧
    -- More tokens add to that at the end.
    (∀ more ws, c.expand (tokens ++ more) = .ok ws →
      ∃ vs, c.expand tokens = .ok vs ∧ vs <+: ws) ∧
    -- The tokens of these viewports stand for the same list again.
    ∀ vs, c.expand tokens = .ok vs →
      (∀ v ∈ vs, Viewport.IsName v.name ∧ (1 ≤ v.width ∧ v.width ≤ 4294967295) ∧
        1 ≤ v.height ∧ v.height ≤ 4294967295) →
      c.expand (vs.map Viewport.token) = .ok vs := by
  refine ⟨exists_expand_error_iff, fun _ => expand_error_iff, fun _ => expand_ok_iff,
    fun _ _ => expand_prefix, ?_⟩
  intro vs hvs hspelled
  refine expand_map_token (expand_nodup hvs) fun v hv => ?_
  rcases hspelled v hv with ⟨hname, hwidth, hheight⟩
  exact viewports_token hname hwidth hheight

/-- A size of its own comes before the preset of its name, and a group brings two that are new. -/
theorem expansion_of_overlapping_tokens :
    let c := Catalog.standard
    let vs : List Viewport := [⟨"mobile", 400, 900⟩, ⟨"tablet", 768, 1024⟩, ⟨"desktop", 1280, 800⟩]
    c.expand ["mobile=400x900", "common", "mobile", "tablet"] = .ok vs ∧
      (∃ front, c.expand ["mobile=400x900"] = .ok front ∧ front <+: vs) ∧
      (∀ v ∈ vs, Viewport.IsName v.name ∧ (1 ≤ v.width ∧ v.width ≤ 4294967295) ∧
        1 ≤ v.height ∧ v.height ≤ 4294967295) ∧
      c.expand (vs.map Viewport.token) = .ok vs := by
  intro c vs
  have hvs : c.expand ["mobile=400x900", "common", "mobile", "tablet"] = .ok vs := by decide
  have hspelled : ∀ v ∈ vs, Viewport.IsName v.name ∧ (1 ≤ v.width ∧ v.width ≤ 4294967295) ∧
      1 ≤ v.height ∧ v.height ≤ 4294967295 := by
    -- What is read from a token has a name and a size that can be given in one.
    have hread : ∀ v ∈ vs, Viewport.ofToken v.token = .ok v := by decide
    intro v hv
    rcases Viewport.ofToken_ok_iff.1 (hread v hv) with ⟨-, hname, hwidth, hheight⟩
    exact ⟨hname, hwidth, hheight⟩
  rcases expansion_of_tokens c ["mobile=400x900"] with ⟨-, -, -, hfront, -⟩
  rcases expansion_of_tokens c ["mobile=400x900", "common", "mobile", "tablet"] with
    ⟨-, -, -, -, hagain⟩
  exact ⟨hvs, hfront ["common", "mobile", "tablet"] vs hvs, hspelled, hagain vs hvs hspelled⟩

end Catalog
end LayoutAudit
