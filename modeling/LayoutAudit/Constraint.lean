import LayoutAudit.Grid.Spacing
import LayoutAudit.Query
import LayoutAudit.Relation.Alignment
import LayoutAudit.Relation.Containment
import LayoutAudit.Relation.Count
import LayoutAudit.Relation.Flag
import LayoutAudit.Relation.Position
import LayoutAudit.Relation.Size
import LayoutAudit.Relation.Wording

/-!
# Constraint — what a page should be like

A constraint is a relation between operands, or a statement about the elements of a group.  The
constraints inside such a statement are made of the element at hand, and may speak of those of the
statements around it.  A failed constraint is never an error: checking gives violations, and none means that
the constraint holds.

* `Operand`, `GroupOperand` — what a constraint speaks of;
* `Constraint` — the constraints, with `Constraint.name`;
* `Constraint.check`, `Constraint.checkAll` — the violations, in order;
* `Bundle` — one constraint or several, as they are registered.
-/

namespace LayoutAudit

open Json (Value)

/-- An element that a constraint speaks of. -/
inductive Operand where
  /-- An element at hand. -/
  | element (e : Element)
  /-- An element that was declared. -/
  | declared (ref : ElementRef)
  /-- The element of a surrounding statement, the innermost having level zero. -/
  | enclosing (level : Nat)
  deriving BEq, Inhabited

/-- The elements of the surrounding statements, the innermost first. -/
abbrev Surroundings := List Element

def Operand.resolve (around : Surroundings) : Operand → Query Element
  | element e => pure e
  | declared ref => Query.find ref
  | enclosing level => pure (around[level]?.getD .blank)

inductive GroupOperand where
  | group (g : Group)
  | declared (ref : GroupRef)
  deriving BEq, Inhabited

def GroupOperand.resolve : GroupOperand → Query Group
  | group g => pure g
  | declared ref => Query.findAll ref

inductive Constraint where
  /-- `a` lies on one side of `b`. -/
  | beside (side : Side) (a b : Operand) (range : Range)
  /-- `a` lies on several sides of `b`. -/
  | near (a b : Operand) (sides : List (Side × Range))
  /-- `a` lies within `b`. -/
  | inside (a b : Operand) (edges : Edges)
  | aligned (a b : Operand) (guide : Guide) (tolerance : Float)
  | centered (a b : Operand) (axis : Axis) (tolerance : Float)
  | measures (a : Operand) (quantity : Quantity) (range : Range)
  | same (a b : Operand) (dimension : Dimension) (tolerance : Float)
  | overlaps (a b : Operand)
  | apart (a b : Operand)
  | flagged (a : Operand) (flag : Flag)
  | reads (a : Operand) (wording : Wording)
  | lineCount (a : Operand) (range : Range)
  | counts (g : GroupOperand) (tally : Tally) (range : Range)
  | tabular (g : GroupOperand) (table : Table)
  | evenlySpaced (g : GroupOperand) (course : Course) (tolerance : Float)
  /-- A constraint of one's own.  It may look up what it likes, and see the elements around it. -/
  | own (name : String) (find : Surroundings → Query (List Violation))
  /-- All constraints that are made of an element hold, whichever element it is. -/
  | everyOf (g : GroupOperand) (body : Element → List Constraint)
  /-- All constraints that are made of some element hold. -/
  | someOf (g : GroupOperand) (body : Element → List Constraint)
  /-- Of no element do all constraints that are made of it hold. -/
  | noneOf (g : GroupOperand) (body : Element → List Constraint)
  deriving Inhabited

namespace Constraint

/-- A constraint of one's own that always reports these violations. -/
def custom (name : String) (violations : List Violation) : Constraint :=
  own name fun _ => pure violations

/-- All constraints of the body, which speaks of the element by its level, hold of every one. -/
def forAll (g : GroupOperand) (body : List Constraint) : Constraint := everyOf g fun _ => body

/-- All constraints of the body, which speaks of the element by its level, hold of some. -/
def forSome (g : GroupOperand) (body : List Constraint) : Constraint := someOf g fun _ => body

/-- All constraints of the body, which speaks of the element by its level, hold of none. -/
def forNone (g : GroupOperand) (body : List Constraint) : Constraint := noneOf g fun _ => body

def name : Constraint → String
  | beside side _ _ _ => side.relation
  | near _ _ _ => "near"
  | inside _ _ _ => "inside"
  | aligned _ _ guide _ => Relation.alignedName guide
  | centered _ _ _ _ => "centered_in"
  | measures _ quantity _ => quantity.relation
  | same _ _ dimension _ => dimension.relation
  | overlaps _ _ => "overlaps"
  | apart _ _ => "no_overlap"
  | flagged _ flag => flag.name
  | reads _ wording => wording.relation
  | lineCount _ _ => "line_count"
  | counts _ tally _ => tally.relation
  | tabular _ _ => "table_layout"
  | evenlySpaced _ course _ => course.relation
  | own name _ => name
  | everyOf _ _ => "for_all"
  | someOf _ _ => "exists"
  | noneOf _ _ => "none"

def debugText (c : Constraint) : String := "Constraint \x7b name: " ++ Text.quoted c.name ++ " \x7d"

/-- What is wrong with the elements of a group one by one, each violation under the index of its
element. -/
def numbered (found : List (List Violation)) : List Violation :=
  found.zipIdx.flatMap fun (vs, i) => vs.map (Violation.under (Relation.indexed "for_all" i))

/-- The violation for a group none of whose elements will do, with what is wrong with each. -/
def nowhere (g : Group) (found : List (Element × List Violation)) : Violation :=
  .detailed "exists"
    ("none of the " ++ toString g.items.length ++ " element(s) matching " ++
      Relation.quote g.selector ++ " satisfies the condition")
    [("items", .array (found.zipIdx.map fun ((e, vs), i) =>
      .object [("index", .nat i), ("selector", .string e.selector),
        ("violations", .array (vs.map Violation.encode))]))]

/-- The violation for an element that satisfies what it must not. -/
def satisfied (g : Group) (i : Nat) (e : Element) : Violation :=
  .detailed (Relation.indexed "none" i)
    ("element " ++ toString i ++ " matching " ++ Relation.quote g.selector ++
      " satisfies a condition it must not")
    [("index", .nat i), ("selector", .string e.selector)]

/-- Asks for the violations of one element after the other, up to the first that has none.  Gives
those before it with their violations, and the one that has none. -/
def untilClean (check : Element → Query (List Violation)) :
    List Element → Query (List (Element × List Violation) × Option Element)
  | [] => pure ([], none)
  | e :: rest => do
      let vs ← check e
      if vs.isEmpty then return ([], some e)
      let (found, clean) ← untilClean check rest
      return ((e, vs) :: found, clean)

mutual
def check (around : Surroundings) : Constraint → Query (List Violation)
  | beside side a b range => do
      return Relation.beside side range (← a.resolve around) (← b.resolve around)
  | near a b sides =>
      if sides.isEmpty then return [Relation.nowhere]
      else do return Relation.near sides (← a.resolve around) (← b.resolve around)
  | inside a b edges => do
      return Relation.inside edges (← a.resolve around) (← b.resolve around)
  | aligned a b guide tolerance => do
      return Relation.aligned guide tolerance (← a.resolve around) (← b.resolve around)
  | centered a b axis tolerance => do
      return Relation.centered axis tolerance (← a.resolve around) (← b.resolve around)
  | measures a quantity range => do
      return Relation.measures quantity range (← a.resolve around)
  | same a b dimension tolerance => do
      return Relation.same dimension tolerance (← a.resolve around) (← b.resolve around)
  | overlaps a b => do return Relation.overlaps (← a.resolve around) (← b.resolve around)
  | apart a b => do return Relation.apart (← a.resolve around) (← b.resolve around)
  | flagged a flag => do return Relation.flagged flag (← a.resolve around)
  | reads a wording => do return Relation.reads wording (← a.resolve around)
  | lineCount a range => do return Relation.lineCount range (← a.resolve around)
  | counts g tally range => do return Relation.counts tally range (← g.resolve)
  | tabular g table => do return Relation.tabular table (← g.resolve)
  | evenlySpaced g course tolerance => do
      return Relation.evenlySpaced course tolerance (← g.resolve)
  | own _ find => find around
  | everyOf g body => do
      let g ← g.resolve
      return numbered (← Query.traverse (fun e => checkAll (e :: around) (body e)) g.items)
  | someOf g body => do
      let g ← g.resolve
      let (found, clean) ← untilClean (fun e => checkAll (e :: around) (body e)) g.items
      return if clean.isSome then [] else [nowhere g found]
  | noneOf g body => do
      let g ← g.resolve
      let (found, clean) ← untilClean (fun e => checkAll (e :: around) (body e)) g.items
      return match clean with
        | some e => [satisfied g found.length e]
        | none => []

def checkAll (around : Surroundings) : List Constraint → Query (List Violation)
  | [] => return []
  | c :: rest => do return (← check around c) ++ (← checkAll around rest)
end

end Constraint

/-- What is registered at a time: one constraint, or several. -/
inductive Bundle where
  | one (c : Constraint)
  | many (cs : List Constraint)
  deriving Inhabited

namespace Bundle

def flatten : Bundle → List Constraint
  | one c => [c]
  | many cs => cs

instance : Coe Constraint Bundle := ⟨one⟩

instance : Coe (List Constraint) Bundle := ⟨many⟩

end Bundle
end LayoutAudit
