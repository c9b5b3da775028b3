import LayoutAudit.Pattern.Class

/-!
# Pattern.Expr — regular expressions

An expression denotes a set of pieces of a text, each seen between the character before it and the
character behind it.

* `Pattern.Place`, `Pattern.Look` — positions in a text, and conditions on them;
* `Pattern.Expr` — expressions;
* `Expr.seq`, `Expr.plus`, `Expr.optional`, `Expr.repeated` — expressions made of others.
-/

namespace LayoutAudit
namespace Pattern

/-- A position: the characters on its two sides. -/
structure Place where
  before : Option Char
  behind : Option Char
  deriving DecidableEq, Repr

/-- A condition on a position.  The conditions on words come with the set of word characters. -/
inductive Look where
  | textStart
  | textEnd
  | lineStart
  | lineEnd
  /-- Lines may end with a carriage return, a line feed, or both. -/
  | anyLineStart
  | anyLineEnd
  | wordEdge (word : Class)
  | noWordEdge (word : Class)
  | wordStart (word : Class)
  | wordEnd (word : Class)
  | wordStartHalf (word : Class)
  | wordEndHalf (word : Class)
  deriving DecidableEq, Repr

def Look.holds (l : Look) (p : Place) : Bool :=
  let within (word : Class) (side : Option Char) : Bool := side.any (word.has ·.toNat)
  match l with
  | textStart => p.before.isNone
  | textEnd => p.behind.isNone
  | lineStart => p.before.all (· == '\n')
  | lineEnd => p.behind.all (· == '\n')
  | anyLineStart =>
      p.before.all fun c => c == '\n' || (c == '\r' && p.behind != some '\n')
  | anyLineEnd =>
      p.behind.all fun c => c == '\r' || (c == '\n' && p.before != some '\r')
  | wordEdge word => within word p.before != within word p.behind
  | noWordEdge word => within word p.before == within word p.behind
  | wordStart word => !within word p.before && within word p.behind
  | wordEnd word => within word p.before && !within word p.behind
  | wordStartHalf word => !within word p.before
  | wordEndHalf word => !within word p.behind

inductive Expr where
  | nothing
  | empty
  | one (c : Class)
  | look (l : Look)
  | cat (a b : Expr)
  | alt (a b : Expr)
  | star (a : Expr)
  deriving DecidableEq, Repr

namespace Expr

def seq (es : List Expr) : Expr := es.foldr cat empty

def plus (e : Expr) : Expr := cat e (star e)

def optional (e : Expr) : Expr := alt e empty

def atMost (e : Expr) : Nat → Expr
  | 0 => empty
  | n + 1 => optional (cat e (atMost e n))

/-- Between `least` and `greatest` repetitions; without an upper bound, any number from `least`. -/
def repeated (e : Expr) (least : Nat) (greatest : Option Nat) : Expr :=
  cat (seq (List.replicate least e)) <|
    match greatest with
    | some n => atMost e (n - least)
    | none => star e

end Expr
end Pattern
end LayoutAudit
