import LayoutAudit.Pattern.Expr

/-!
# Pattern.Search — is there a match anywhere in a text?

The text is read once.  Each character set of the expression carries a mark, which says that the
character just read can have been taken by it in a match that has begun somewhere.  Reading a
character moves the marks on.

* `Pattern.Marked`, `Expr.unmarked` — expressions with marks;
* `Marked.nullable`, `Marked.final` — can a match be empty, or end, at a place?
* `Marked.shift` — the marks behind a character;
* `Expr.occursIn` — the search.
-/

namespace LayoutAudit
namespace Pattern

/-- An expression with marks on its character sets. -/
inductive Marked where
  | nothing
  | empty
  | one (c : Class) (mark : Bool)
  | look (l : Look)
  | cat (a b : Marked)
  | alt (a b : Marked)
  | star (a : Marked)
  deriving Repr

def Expr.unmarked : Expr → Marked
  | nothing => .nothing
  | empty => .empty
  | one c => .one c false
  | look l => .look l
  | cat a b => .cat a.unmarked b.unmarked
  | alt a b => .alt a.unmarked b.unmarked
  | star a => .star a.unmarked

namespace Marked

/-- Does the expression match the empty piece at the place? -/
def nullable (p : Place) : Marked → Bool
  | nothing => false
  | empty => true
  | one _ _ => false
  | look l => l.holds p
  | cat a b => a.nullable p && b.nullable p
  | alt a b => a.nullable p || b.nullable p
  | star _ => true

/-- Can a match that took the character in front of the place end there? -/
def final (p : Place) : Marked → Bool
  | nothing => false
  | empty => false
  | one _ mark => mark
  | look _ => false
  | cat a b => (a.final p && b.nullable p) || b.final p
  | alt a b => a.final p || b.final p
  | star a => a.final p

/-- The marks behind a character that follows the place.  A match may begin at the place if
`begins`. -/
def shift (p : Place) (c : Char) : Bool → Marked → Marked
  | _, nothing => nothing
  | _, empty => empty
  | begins, one s _ => one s (begins && s.has c.toNat)
  | _, look l => look l
  | begins, cat a b =>
      cat (a.shift p c begins) (b.shift p c ((begins && a.nullable p) || a.final p))
  | begins, alt a b => alt (a.shift p c begins) (b.shift p c begins)
  | begins, star a => star (a.shift p c (begins || a.final p))

/-- Does a match end at a place of the rest of a text?  A match may begin anywhere. -/
def search : Marked → Option Char → List Char → Bool
  | e, before, [] => e.nullable ⟨before, none⟩ || e.final ⟨before, none⟩
  | e, before, c :: rest =>
      let place : Place := ⟨before, some c⟩
      e.nullable place || e.final place || (e.shift place c true).search (some c) rest

end Marked

def Expr.occursIn (e : Expr) (text : List Char) : Bool := e.unmarked.search none text

end Pattern
end LayoutAudit
