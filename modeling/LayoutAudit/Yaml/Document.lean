import LayoutAudit.Wire.Node
import LayoutAudit.Yaml.Tree

/-!
# Yaml.Document — from text to nodes

An alias is replaced by what the last anchor of its number holds.  Where that never ends, or nests
too deeply, the node stands for no value.

* `Tree.anchored` — the anchors of a tree;
* `Tree.toNode` — the tree with its aliases resolved;
* `Yaml.read` — the node of a text.
-/

namespace LayoutAudit
namespace Yaml

open Wire (Fault Node Reading)

namespace Tree

mutual
/-- The nodes that have an anchor, with their numbers, the last one first. -/
def anchored (found : List (Nat × Tree)) : Tree → List (Nat × Tree)
  | .alias _ => found
  | .scalar anchor s => note anchor (.scalar anchor s) found
  | .sequence anchor tag items =>
      anchoredItems (note anchor (.sequence anchor tag items) found) items
  | .mapping anchor tag members =>
      anchoredMembers (note anchor (.mapping anchor tag members) found) members

def anchoredItems (found : List (Nat × Tree)) : List Tree → List (Nat × Tree)
  | [] => found
  | t :: rest => anchoredItems (anchored found t) rest

def anchoredMembers (found : List (Nat × Tree)) : List (Tree × Tree) → List (Nat × Tree)
  | [] => found
  | (k, v) :: rest => anchoredMembers (anchored (anchored found k) v) rest

def note (anchor : Option Nat) (t : Tree) (found : List (Nat × Tree)) : List (Nat × Tree) :=
  match anchor with
  | some number => (number, t) :: found
  | none => found
end

/-- Containers nested deeper than this are not read. -/
def depthLimit : Nat := 128

mutual
/-- The node of a tree, given what aliases stand for at a depth. -/
def toNode (behind : Nat → Nat → Node) (depth : Nat) : Tree → Node
  | .alias number => behind depth number
  | .scalar _ s => .scalar s
  | .sequence _ tag items =>
      match depth with
      | 0 => .void
      | depth + 1 => .sequence tag (toNodes behind depth items)
  | .mapping _ tag members =>
      match depth with
      | 0 => .void
      | depth + 1 => .mapping tag (toMembers behind depth members)

def toNodes (behind : Nat → Nat → Node) (depth : Nat) : List Tree → List Node
  | [] => []
  | t :: rest => toNode behind depth t :: toNodes behind depth rest

def toMembers (behind : Nat → Nat → Node) (depth : Nat) :
    List (Tree × Tree) → List (Node × Node)
  | [] => []
  | (k, v) :: rest =>
      (toNode behind depth k, toNode behind depth v) :: toMembers behind depth rest
end

mutual
/-- The number of aliases that are followed in a tree, given the number for each anchor. -/
def weight (known : List (Nat × Nat)) : Tree → Nat
  | .alias number => 1 + (known.lookup number).getD 0
  | .scalar _ _ => 0
  | .sequence _ _ items => weightOfItems known items
  | .mapping _ _ members => weightOfMembers known members

def weightOfItems (known : List (Nat × Nat)) : List Tree → Nat
  | [] => 0
  | t :: rest => weight known t + weightOfItems known rest

def weightOfMembers (known : List (Nat × Nat)) : List (Tree × Tree) → Nat
  | [] => 0
  | (k, v) :: rest => weight known k + weight known v + weightOfMembers known rest
end

mutual
def size : Tree → Nat
  | .alias _ => 1
  | .scalar _ _ => 1
  | .sequence _ _ items => 2 + sizeOfItems items
  | .mapping _ _ members => 2 + sizeOfMembers members

def sizeOfItems : List Tree → Nat
  | [] => 0
  | t :: rest => size t + sizeOfItems rest

def sizeOfMembers : List (Tree × Tree) → Nat
  | [] => 0
  | (k, v) :: rest => size k + size v + sizeOfMembers rest
end

/-- How many aliases are followed for each anchor, when they lead to each other at most so many
times. -/
def weights (anchors : List (Nat × Tree)) : Nat → List (Nat × Nat)
  | 0 => []
  | rounds + 1 =>
      let known := weights anchors rounds
      anchors.map fun (number, t) => (number, weight known t)

/-- What an alias stands for.  An anchor that takes more aliases than `limit` is not read. -/
def follow (anchors : List (Nat × Tree)) (known : List (Nat × Nat)) (limit : Nat) :
    Nat → Nat → Nat → Node
  | 0, _, _ => .void
  | fuel + 1, depth, number =>
      match anchors.lookup number with
      | some t =>
          if (known.lookup number).getD 0 ≤ limit then
            toNode (follow anchors known limit fuel) depth t
          else .void
      | none => .void

def resolved (t : Tree) : Node :=
  let anchors := anchored [] t
  let rounds := anchors.length + 1
  toNode (follow anchors (weights anchors rounds) (100 * t.size) rounds) depthLimit t

end Tree

/-- The node of a text that holds one document. -/
def read (text : String) : Reading Node :=
  match (Token.ofText? text).bind Tree.ofTokens? with
  | some t => .ok t.resolved
  | none => .error .malformed

def decode {α : Type} (decoder : Node → Reading α) (text : String) : Reading α := do
  decoder (← read text)

end Yaml
end LayoutAudit
