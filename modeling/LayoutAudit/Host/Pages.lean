/-!
# Host.Pages — the pages that are open

Pages are numbered from one on, and no number is given twice.

* `Host.Pages` — the table, with `add`, `find?` and `remove`;
* small lemmas that say what each operation does to the table and to the numbers in it.
-/

namespace LayoutAudit
namespace Host

structure Pages (β : Type) where
  /-- How many pages were opened so far. -/
  opened : Nat
  table : List (Nat × β)
  bounded : ∀ number ∈ table.map (·.1), number ≤ opened
  nodup : (table.map (·.1)).Nodup

namespace Pages

variable {β : Type}

def none : Pages β := ⟨0, [], by simp, by simp⟩

instance : Inhabited (Pages β) := ⟨none⟩

def numbers (p : Pages β) : List Nat := p.table.map (·.1)

def find? (p : Pages β) (number : Nat) : Option β := p.table.lookup number

theorem not_mem_of_lt (p : Pages β) {number : Nat} (h : p.opened < number) :
    number ∉ p.table.map (·.1) :=
  fun hin => Nat.not_le.2 h (p.bounded number hin)

/-- Adds a page under the next number. -/
def add (p : Pages β) (page : β) : Nat × Pages β :=
  (p.opened + 1,
    { opened := p.opened + 1
      table := p.table ++ [(p.opened + 1, page)]
      bounded := by
        intro number hin
        rw [List.map_append, List.mem_append, List.map_singleton, List.mem_singleton] at hin
        rcases hin with hold | rfl
        · exact Nat.le_succ_of_le (p.bounded number hold)
        · exact Nat.le_refl _
      nodup := by
        rw [List.map_append, List.map_singleton, List.nodup_append]
        refine ⟨p.nodup, by simp, ?_⟩
        intro number hold next hnext hsame
        rw [hsame, List.mem_singleton.1 hnext] at hold
        exact p.not_mem_of_lt (Nat.lt_succ_self _) hold })

def remove (p : Pages β) (number : Nat) : Pages β where
  opened := p.opened
  table := p.table.filter (·.1 != number)
  bounded := by
    intro other hin
    exact p.bounded other ((List.filter_sublist.map _).subset hin)
  nodup := (List.filter_sublist.map _).nodup p.nodup

@[simp]
theorem numbers_none : (none : Pages β).numbers = [] := rfl

@[simp]
theorem find?_none (number : Nat) : (none : Pages β).find? number = .none := rfl

@[simp]
theorem opened_add (p : Pages β) (page : β) : (p.add page).2.opened = p.opened + 1 := rfl

@[simp]
theorem opened_remove (p : Pages β) (number : Nat) : (p.remove number).opened = p.opened := rfl

@[simp]
theorem numbers_add (p : Pages β) (page : β) :
    (p.add page).2.numbers = p.numbers ++ [p.opened + 1] := by
  simp [add, numbers]

@[simp]
theorem numbers_remove (p : Pages β) (number : Nat) :
    (p.remove number).numbers = p.numbers.filter (· != number) := by
  simp [remove, numbers, List.filter_map, Function.comp_def]

/-- The page of a number is the one that the table has for it. -/
theorem find?_eq_some_iff (p : Pages β) (number : Nat) (page : β) :
    p.find? number = some page ↔ (number, page) ∈ p.table := by
  rw [find?, List.lookup_eq_some_iff]
  constructor
  · rintro ⟨first, rest, htable, -⟩
    simp [htable]
  · intro hin
    rcases List.append_of_mem hin with ⟨first, rest, htable⟩
    have hnodup := p.nodup
    rw [htable, List.map_append, List.nodup_append] at hnodup
    refine ⟨first, rest, htable, fun entry hentry => ?_⟩
    have hother : entry.1 ≠ number :=
      hnodup.2.2 entry.1 (List.mem_map_of_mem hentry) number (by simp)
    simpa using hother.symm

theorem mem_numbers_iff (p : Pages β) (number : Nat) :
    number ∈ p.numbers ↔ ∃ page, p.find? number = some page := by
  simp [numbers, find?_eq_some_iff]

/-- The new page has the new number, and all others are found as before. -/
theorem find?_add_eq_some_iff (p : Pages β) (page found : β) (number : Nat) :
    (p.add page).2.find? number = some found ↔
      p.find? number = some found ∨ number = p.opened + 1 ∧ found = page := by
  simp [find?_eq_some_iff, add]

/-- The removed page is not found any more, and all others are found as before. -/
theorem find?_remove_eq_some_iff (p : Pages β) (removed number : Nat) (page : β) :
    (p.remove removed).find? number = some page ↔
      p.find? number = some page ∧ number ≠ removed := by
  simp [find?_eq_some_iff, remove]

end Pages
end Host
end LayoutAudit
