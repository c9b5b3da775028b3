import LayoutAudit.Constraint

/-!
# Proofs.Constraint.References — what a constraint looks up

A constraint refers to elements and groups by their keys.  Checking it looks up what it refers to
and nothing else, whatever the lookups answer on the way.

* `Query.RefersWithin.bind`, `.traverse` — queries one after the other look up no more;
* `Query.RefersWithin.answer_eq` — a query sees no difference in what it does not look up;
* `Constraint.Within` — all references of a constraint have keys of given lists;
* `Constraint.check_refersWithin` — then so have all lookups of its check.
-/

namespace LayoutAudit

variable {elements groups : List String}

namespace Query

variable {α β : Type}

/-! ## Lookups of queries one after the other -/

theorem RefersWithin.bind {q : Query α} {f : α → Query β} (hq : q.RefersWithin elements groups)
    (hf : ∀ a, (f a).RefersWithin elements groups) :
    (q >>= f).RefersWithin elements groups := by
  -- The lookups of the first query are allowed, and at its end the second one begins.
  induction hq with
  | done a => exact hf a
  | element ref next hdeclared _ ih => exact .element ref _ hdeclared ih
  | group ref next hdeclared _ ih => exact .group ref _ hdeclared ih

theorem RefersWithin.pure (a : α) : (pure a : Query α).RefersWithin elements groups := .done a

theorem RefersWithin.traverse {f : α → Query β} (hf : ∀ a, (f a).RefersWithin elements groups)
    (as : List α) : (traverse f as).RefersWithin elements groups := by
  induction as with
  | nil => exact .done []
  | cons a rest ih => exact (hf a).bind fun b => ih.bind fun bs => .done (b :: bs)

/-- Answers that agree on all keys which a query may look up give it the same result. -/
theorem RefersWithin.answer_eq {q : Query α} (hq : q.RefersWithin elements groups)
    {find find' : ElementRef → Element} {findAll findAll' : GroupRef → Group}
    (helement : ∀ ref : ElementRef, ref.key ∈ elements → find ref = find' ref)
    (hgroup : ∀ ref : GroupRef, ref.key ∈ groups → findAll ref = findAll' ref) :
    q.answer find findAll = q.answer find' findAll' := by
  -- What is looked up gets the same answer, and the rest of the query is the same from there on.
  induction hq with
  | done a => rfl
  | element ref next hdeclared _ ih =>
      calc
        (next (find ref)).answer find findAll = (next (find ref)).answer find' findAll' := ih _
        _ = (next (find' ref)).answer find' findAll' := by rw [helement ref hdeclared]
  | group ref next hdeclared _ ih =>
      calc
        (next (findAll ref)).answer find findAll = (next (findAll ref)).answer find' findAll' := ih _
        _ = (next (findAll' ref)).answer find' findAll' := by rw [hgroup ref hdeclared]

end Query

/-! ## References of a constraint -/

/-- An operand that was declared has one of these keys. -/
def Operand.Within (elements : List String) : Operand → Prop
  | element _ => True
  | declared ref => ref.key ∈ elements
  | enclosing _ => True

instance (elements : List String) : (a : Operand) → Decidable (a.Within elements)
  | .element _ => .isTrue trivial
  | .declared ref => inferInstanceAs (Decidable (ref.key ∈ elements))
  | .enclosing _ => .isTrue trivial

/-- A group that was declared has one of these keys. -/
def GroupOperand.Within (groups : List String) : GroupOperand → Prop
  | group _ => True
  | declared ref => ref.key ∈ groups

instance (groups : List String) : (g : GroupOperand) → Decidable (g.Within groups)
  | .group _ => .isTrue trivial
  | .declared ref => inferInstanceAs (Decidable (ref.key ∈ groups))

namespace Constraint

mutual
/-- All references of a constraint, those of the constraints within it included, have these keys. -/
def Within (elements groups : List String) : Constraint → Prop
  | beside _ a b _ => a.Within elements ∧ b.Within elements
  | near a b _ => a.Within elements ∧ b.Within elements
  | inside a b _ => a.Within elements ∧ b.Within elements
  | aligned a b _ _ => a.Within elements ∧ b.Within elements
  | centered a b _ _ => a.Within elements ∧ b.Within elements
  | measures a _ _ => a.Within elements
  | same a b _ _ => a.Within elements ∧ b.Within elements
  | overlaps a b => a.Within elements ∧ b.Within elements
  | apart a b => a.Within elements ∧ b.Within elements
  | flagged a _ => a.Within elements
  | reads a _ => a.Within elements
  | lineCount a _ => a.Within elements
  | counts g _ _ => g.Within groups
  | tabular g _ => g.Within groups
  | evenlySpaced g _ _ => g.Within groups
  | own _ find => ∀ around, (find around).RefersWithin elements groups
  | everyOf g body => g.Within groups ∧ ∀ e, AllWithin elements groups (body e)
  | someOf g body => g.Within groups ∧ ∀ e, AllWithin elements groups (body e)
  | noneOf g body => g.Within groups ∧ ∀ e, AllWithin elements groups (body e)

def AllWithin (elements groups : List String) : List Constraint → Prop
  | [] => True
  | c :: rest => Within elements groups c ∧ AllWithin elements groups rest
end

/-! ## Lookups of a check -/

theorem resolve_refersWithin {around : Surroundings} {a : Operand} (ha : a.Within elements) :
    (a.resolve around).RefersWithin elements groups := by
  cases a with
  | element e => exact .done e
  | declared ref => exact .element ref _ ha fun e => .done e
  | enclosing level => exact .done _

theorem resolve_group_refersWithin {g : GroupOperand} (hg : g.Within groups) :
    g.resolve.RefersWithin elements groups := by
  cases g with
  | group g => exact .done g
  | declared ref => exact .group ref _ hg fun g => .done g

/-- A relation between two elements looks up these two. -/
theorem relation_refersWithin {around : Surroundings} {a b : Operand}
    (hab : a.Within elements ∧ b.Within elements) (relation : Element → Element → List Violation) :
    (do return relation (← a.resolve around) (← b.resolve around) :
      Query (List Violation)).RefersWithin elements groups :=
  (resolve_refersWithin hab.1).bind fun _ => (resolve_refersWithin hab.2).bind fun _ => .pure _

theorem untilClean_refersWithin {check : Element → Query (List Violation)}
    (hcheck : ∀ e, (check e).RefersWithin elements groups) (es : List Element) :
    (untilClean check es).RefersWithin elements groups := by
  induction es with
  | nil => exact .done _
  | cons e rest ih =>
      refine (hcheck e).bind fun vs => ?_
      -- The rest is looked at only if something is wrong with this element.
      cases hclean : vs.isEmpty
      · exact ih.bind fun _ => .pure _
      · exact .pure _

mutual
theorem check_refersWithin (around : Surroundings) (c : Constraint)
    (hc : c.Within elements groups) : (c.check around).RefersWithin elements groups := by
  -- The elements around a constraint are at hand, and need no lookup.
  cases c with
  | beside side a b range => exact relation_refersWithin hc _
  | near a b sides =>
      cases hsides : sides.isEmpty
      · simpa [check, hsides] using relation_refersWithin hc (Relation.near sides)
      · simpa [check, hsides] using Query.RefersWithin.pure _
  | inside a b edges => exact relation_refersWithin hc _
  | aligned a b guide tolerance => exact relation_refersWithin hc _
  | centered a b axis tolerance => exact relation_refersWithin hc _
  | measures a quantity range => exact (resolve_refersWithin hc).bind fun _ => .pure _
  | same a b dimension tolerance => exact relation_refersWithin hc _
  | overlaps a b => exact relation_refersWithin hc _
  | apart a b => exact relation_refersWithin hc _
  | flagged a flag => exact (resolve_refersWithin hc).bind fun _ => .pure _
  | reads a wording => exact (resolve_refersWithin hc).bind fun _ => .pure _
  | lineCount a range => exact (resolve_refersWithin hc).bind fun _ => .pure _
  | counts g tally range => exact (resolve_group_refersWithin hc).bind fun _ => .pure _
  | tabular g table => exact (resolve_group_refersWithin hc).bind fun _ => .pure _
  | evenlySpaced g course tolerance => exact (resolve_group_refersWithin hc).bind fun _ => .pure _
  | own name find => exact hc around
  | everyOf g body =>
      have hbody (e : Element) : (checkAll (e :: around) (body e)).RefersWithin elements groups :=
        checkAll_refersWithin (e :: around) (body e) (hc.2 e)
      exact (resolve_group_refersWithin hc.1).bind fun g =>
        (Query.RefersWithin.traverse hbody g.items).bind fun _ => .pure _
  | someOf g body =>
      have hbody (e : Element) : (checkAll (e :: around) (body e)).RefersWithin elements groups :=
        checkAll_refersWithin (e :: around) (body e) (hc.2 e)
      exact (resolve_group_refersWithin hc.1).bind fun g =>
        (untilClean_refersWithin hbody g.items).bind fun _ => .pure _
  | noneOf g body =>
      have hbody (e : Element) : (checkAll (e :: around) (body e)).RefersWithin elements groups :=
        checkAll_refersWithin (e :: around) (body e) (hc.2 e)
      exact (resolve_group_refersWithin hc.1).bind fun g =>
        (untilClean_refersWithin hbody g.items).bind fun _ => .pure _

theorem checkAll_refersWithin (around : Surroundings) (cs : List Constraint)
    (hcs : AllWithin elements groups cs) : (checkAll around cs).RefersWithin elements groups := by
  cases cs with
  | nil => exact .done []
  | cons c rest =>
      exact (check_refersWithin around c hcs.1).bind fun _ =>
        (checkAll_refersWithin around rest hcs.2).bind fun _ => .pure _
end

end Constraint
end LayoutAudit
