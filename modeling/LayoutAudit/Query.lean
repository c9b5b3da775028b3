import LayoutAudit.Element
import LayoutAudit.Reference

/-!
# Query — computations that look references up

A `Query α` is a result or a lookup followed by a query that depends on what was found.  What the
lookups answer is decided by who runs it: with plain functions (`Query.answer`), or through a store
that shares what it has found before (`LayoutAudit.Scope`).

* `Query` — results and lookups;
* `Query.bind`, `Query.traverse` — one query after the other;
* `Query.answer` — running a query on two functions;
* `Query.RefersWithin` — a query that only looks up references of certain keys.
-/

namespace LayoutAudit

/-- A computation that looks up elements and groups. -/
inductive Query (α : Type) where
  | done (a : α)
  | element (ref : ElementRef) (next : Element → Query α)
  | group (ref : GroupRef) (next : Group → Query α)

namespace Query

variable {α β : Type}

def bind : Query α → (α → Query β) → Query β
  | done a, f => f a
  | element ref next, f => element ref fun e => (next e).bind f
  | group ref next, f => group ref fun g => (next g).bind f

instance : Monad Query where
  pure := done
  bind := bind

def find (ref : ElementRef) : Query Element := element ref done

def findAll (ref : GroupRef) : Query Group := group ref done

/-- Asks one query for each item, and collects the results. -/
def traverse (f : α → Query β) : List α → Query (List β)
  | [] => done []
  | a :: rest => (f a).bind fun b => (traverse f rest).bind fun bs => done (b :: bs)

/-- The result of a query when lookups are answered by functions. -/
def answer (element : ElementRef → Element) (group : GroupRef → Group) : Query α → α
  | .done a => a
  | .element ref next => (next (element ref)).answer element group
  | .group ref next => (next (group ref)).answer element group

/-- Every lookup of the query, whatever the lookups answer, is of a reference of these keys. -/
inductive RefersWithin (elements groups : List String) : Query α → Prop where
  | done (a : α) : RefersWithin elements groups (.done a)
  | element (ref : ElementRef) (next : Element → Query α) (declared : ref.key ∈ elements)
      (all : ∀ e, RefersWithin elements groups (next e)) :
      RefersWithin elements groups (.element ref next)
  | group (ref : GroupRef) (next : Group → Query α) (declared : ref.key ∈ groups)
      (all : ∀ g, RefersWithin elements groups (next g)) :
      RefersWithin elements groups (.group ref next)

@[simp] theorem answer_pure (e : ElementRef → Element) (g : GroupRef → Group) (a : α) :
    (pure a : Query α).answer e g = a := rfl

@[simp] theorem answer_bind (e : ElementRef → Element) (g : GroupRef → Group) (q : Query α)
    (f : α → Query β) : (q >>= f).answer e g = (f (q.answer e g)).answer e g := by
  change (q.bind f).answer e g = _
  induction q with
  | done a => rfl
  | element ref next ih => exact ih (e ref)
  | group ref next ih => exact ih (g ref)

@[simp] theorem answer_traverse (e : ElementRef → Element) (g : GroupRef → Group)
    (f : α → Query β) (as : List α) :
    (traverse f as).answer e g = as.map fun a => (f a).answer e g := by
  induction as with
  | nil => rfl
  | cons a rest ih =>
      have step : (traverse f (a :: rest)).answer e g =
          (f a).answer e g :: (traverse f rest).answer e g := by
        simp only [traverse]
        exact (answer_bind e g (f a) _).trans (answer_bind e g (traverse f rest) _)
      rw [step, ih, List.map_cons]

end Query
end LayoutAudit
