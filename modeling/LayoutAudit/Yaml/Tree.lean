import LayoutAudit.Yaml.Token

/-!
# Yaml.Tree — the tree that tokens spell

Anchors are numbered as they come: the number of an anchor is the number of distinct names so far.
An alias stands for the number that its name has at that point.

* `Yaml.Tree` — scalars, sequences and mappings, with anchors and aliases by number;
* `Tree.ofTokens?` — the tree of the one document that tokens spell.
-/

namespace LayoutAudit
namespace Yaml

open Wire (Scalar ScalarStyle)

/-- A tree in which aliases are not yet resolved. -/
inductive Tree where
  | alias (number : Nat)
  | scalar (anchor : Option Nat) (s : Scalar)
  | sequence (anchor : Option Nat) (tag : Option String) (items : List Tree)
  | mapping (anchor : Option Nat) (tag : Option String) (members : List (Tree × Tree))
  deriving Inhabited

structure Anchors where
  /-- The handles of tags. -/
  handles : List (String × String)
  /-- The numbers of anchors, the latest first. -/
  numbers : List (String × Nat)
  /-- How many distinct names there are. -/
  distinct : Nat

namespace Anchors

def standardHandles : List (String × String) := [("!", "!"), ("!!", "tag:yaml.org,2002:")]

def define (a : Anchors) (name : String) : Nat × Anchors :=
  let known := (a.numbers.lookup name).isSome
  (a.distinct, { a with
    numbers := (name, a.distinct) :: a.numbers
    distinct := if known then a.distinct else a.distinct + 1 })

/-- The tag that a handle and the rest of a tag stand for. -/
def resolve (a : Anchors) (handle rest : String) : Option String :=
  if handle.isEmpty then some rest else (a.handles.lookup handle).map (· ++ rest)

end Anchors

namespace Tree

abbrev Parsed (α : Type) := α × Anchors × List Token

/-- A scalar that is not written. -/
def blank : Tree := .scalar none ⟨"", .plain, none⟩

/-- What stands in front of a node. -/
structure Properties where
  anchor : Option String
  tag : Option (String × String)

/-- Reads an anchor and a tag, in either order, each at most once. -/
def properties : List Token → Properties × List Token
  | .anchor a :: .tag h r :: rest => (⟨some a, some (h, r)⟩, rest)
  | .tag h r :: .anchor a :: rest => (⟨some a, some (h, r)⟩, rest)
  | .anchor a :: rest => (⟨some a, none⟩, rest)
  | .tag h r :: rest => (⟨none, some (h, r)⟩, rest)
  | rest => (⟨none, none⟩, rest)

/-- The tag of a scalar: a lone exclamation mark says nothing. -/
def scalarTag (tag : Option String) : Option String := tag.filter (· ≠ "!")

/-- Gives the anchor of a node its number, and resolves its tag. -/
def settleProperties (p : Properties) (a : Anchors) :
    Option (Option Nat × Option String × Anchors) := do
  let tag ← match p.tag with
    | some (handle, rest) => (a.resolve handle rest).map some
    | none => some none
  match p.anchor with
  | some name =>
      let (number, a) := a.define name
      return (some number, tag, a)
  | none => return (none, tag, a)

/-- Does the token end the part of a block mapping at hand, so that nothing stands there? -/
def endsPart : Token → Bool
  | .key => true
  | .value => true
  | .blockEnd => true
  | _ => false

mutual
def node : Nat → Bool → Bool → Anchors → List Token → Option (Parsed Tree)
  | 0, _, _, _, _ => none
  | fuel + 1, block, indentless, a, ts =>
      match ts with
      | .alias name :: rest => do return (.alias (← a.numbers.lookup name), a, rest)
      | ts => do
          let (p, ts) := properties ts
          let (anchor, tag, a) ← settleProperties p a
          match ts with
          | .blockEntry :: _ =>
              if indentless then
                let (items, a, ts) ← indentlessItems fuel a ts
                return (.sequence anchor tag items, a, ts)
              else if p.anchor.isSome || p.tag.isSome then
                return (.scalar anchor ⟨"", .plain, tag⟩, a, ts)
              else none
          | .scalar text style :: rest =>
              return (.scalar anchor ⟨text, style, scalarTag tag⟩, a, rest)
          | .flowSequence :: rest =>
              let (items, a, ts) ← flowItems fuel true a rest
              return (.sequence anchor tag items, a, ts)
          | .flowMapping :: rest =>
              let (members, a, ts) ← flowMembers fuel true a rest
              return (.mapping anchor tag members, a, ts)
          | ts =>
              match block, ts with
              | true, .blockSequence :: rest =>
                  let (items, a, ts) ← blockItems fuel a rest
                  return (.sequence anchor tag items, a, ts)
              | true, .blockMapping :: rest =>
                  let (members, a, ts) ← blockMembers fuel a rest
                  return (.mapping anchor tag members, a, ts)
              | _, ts =>
                  if p.anchor.isSome || p.tag.isSome then
                    return (.scalar anchor ⟨"", .plain, tag⟩, a, ts)
                  else none

def blockItems : Nat → Anchors → List Token → Option (Parsed (List Tree))
  | 0, _, _ => none
  | fuel + 1, a, ts =>
      match ts with
      | .blockEntry :: rest => do
          let (item, a, ts) ← match rest with
            | .blockEntry :: _ => some (blank, a, rest)
            | .blockEnd :: _ => some (blank, a, rest)
            | _ => node fuel true false a rest
          let (items, a, ts) ← blockItems fuel a ts
          return (item :: items, a, ts)
      | .blockEnd :: rest => some ([], a, rest)
      | _ => none

/-- Reads the items of a sequence that is not indented below its key. -/
def indentlessItems : Nat → Anchors → List Token → Option (Parsed (List Tree))
  | 0, _, _ => none
  | fuel + 1, a, ts =>
      match ts with
      | .blockEntry :: rest => do
          let (item, a, ts) ← match rest with
            | .blockEntry :: _ => some (blank, a, rest)
            | t :: _ =>
                if endsPart t then some (blank, a, rest) else node fuel true false a rest
            | [] => none
          let (items, a, ts) ← indentlessItems fuel a ts
          return (item :: items, a, ts)
      | ts => some ([], a, ts)

/-- Reads a key or value of a block mapping, which may be missing. -/
def blockPart : Nat → Anchors → List Token → Option (Parsed Tree)
  | 0, _, _ => none
  | fuel + 1, a, ts =>
      match ts with
      | t :: _ => if endsPart t then some (blank, a, ts) else node fuel true true a ts
      | [] => none

def blockMembers : Nat → Anchors → List Token → Option (Parsed (List (Tree × Tree)))
  | 0, _, _ => none
  | fuel + 1, a, ts =>
      match ts with
      | .blockEnd :: rest => some ([], a, rest)
      | .key :: rest => do
          let (k, a, ts) ← blockPart fuel a rest
          let (v, a, ts) ← match ts with
            | .value :: rest => blockPart fuel a rest
            | ts => some (blank, a, ts)
          let (members, a, ts) ← blockMembers fuel a ts
          return ((k, v) :: members, a, ts)
      | .value :: rest => do
          let (v, a, ts) ← blockPart fuel a rest
          let (members, a, ts) ← blockMembers fuel a ts
          return ((blank, v) :: members, a, ts)
      | _ => none

/-- Reads a value within a flow collection, which may be missing. -/
def flowValue : Nat → Token → Anchors → List Token → Option (Parsed Tree)
  | 0, _, _, _ => none
  | fuel + 1, close, a, ts =>
      match ts with
      | .value :: .flowEntry :: rest => some (blank, a, .flowEntry :: rest)
      | .value :: t :: rest =>
          if t = close then some (blank, a, t :: rest) else node fuel false false a (t :: rest)
      | .value :: [] => none
      | ts => some (blank, a, ts)

def flowItems : Nat → Bool → Anchors → List Token → Option (Parsed (List Tree))
  | 0, _, _, _ => none
  | fuel + 1, first, a, ts =>
      match first, ts with
      | _, .flowSequenceEnd :: rest => some ([], a, rest)
      | true, ts => flowItem fuel a ts
      | false, .flowEntry :: .flowSequenceEnd :: rest => some ([], a, rest)
      | false, .flowEntry :: rest => flowItem fuel a rest
      | false, _ => none

/-- Reads an item of a flow sequence and what follows it.  A key makes a mapping of one member. -/
def flowItem : Nat → Anchors → List Token → Option (Parsed (List Tree))
  | 0, _, _ => none
  | fuel + 1, a, ts =>
      match ts with
      | .key :: rest => do
          let (k, a, ts) ← match rest with
            | .value :: rest => some (blank, a, rest)
            | .flowEntry :: rest => some (blank, a, rest)
            | .flowSequenceEnd :: rest => some (blank, a, rest)
            | rest => node fuel false false a rest
          let (v, a, ts) ← flowValue fuel .flowSequenceEnd a ts
          let (items, a, ts) ← flowItems fuel false a ts
          return (.mapping none none [(k, v)] :: items, a, ts)
      | ts => do
          let (item, a, ts) ← node fuel false false a ts
          let (items, a, ts) ← flowItems fuel false a ts
          return (item :: items, a, ts)

def flowMembers : Nat → Bool → Anchors → List Token → Option (Parsed (List (Tree × Tree)))
  | 0, _, _, _ => none
  | fuel + 1, first, a, ts =>
      match first, ts with
      | _, .flowMappingEnd :: rest => some ([], a, rest)
      | true, ts => flowMember fuel a ts
      | false, .flowEntry :: .flowMappingEnd :: rest => some ([], a, rest)
      | false, .flowEntry :: rest => flowMember fuel a rest
      | false, _ => none

/-- Reads a member of a flow mapping and what follows it.  Without a colon the value is missing. -/
def flowMember : Nat → Anchors → List Token → Option (Parsed (List (Tree × Tree)))
  | 0, _, _ => none
  | fuel + 1, a, ts =>
      match ts with
      | .key :: rest => do
          let (k, a, ts) ← match rest with
            | .value :: _ => some (blank, a, rest)
            | .flowEntry :: _ => some (blank, a, rest)
            | .flowMappingEnd :: _ => some (blank, a, rest)
            | rest => node fuel false false a rest
          let (v, a, ts) ← flowValue fuel .flowMappingEnd a ts
          let (members, a, ts) ← flowMembers fuel false a ts
          return ((k, v) :: members, a, ts)
      | ts => do
          let (k, a, ts) ← node fuel false false a ts
          let (members, a, ts) ← flowMembers fuel false a ts
          return ((k, blank) :: members, a, ts)
end

/-- Reads the directives of a document: at most one version, and the handles of tags. -/
def directives : Bool → List (String × String) → List Token →
    Option (List (String × String) × List Token)
  | versioned, handles, .version major minor :: rest =>
      if versioned || major ≠ 1 || (minor ≠ 1 && minor ≠ 2) then none
      else directives true handles rest
  | versioned, handles, .handle h text :: rest =>
      if (handles.lookup h).isSome then none else directives versioned ((h, text) :: handles) rest
  | _, handles, ts => some (handles, ts)

/-- Is this the start of a document that has a mark or directives? -/
def isExplicit : List Token → Bool
  | .version _ _ :: _ => true
  | .handle _ _ :: _ => true
  | .documentStart :: _ => true
  | _ => false

/-- Reads the node of a document that has a mark; it may be missing. -/
def content (fuel : Nat) (a : Anchors) (ts : List Token) : Option (Parsed Tree) :=
  match ts with
  | [] => some (blank, a, [])
  | .documentEnd :: rest => some (blank, a, .documentEnd :: rest)
  | ts => if isExplicit ts then some (blank, a, ts) else node fuel true false a ts

/-- The tree of the one document that tokens spell.  No tokens spell a document that is blank. -/
def ofTokens? (ts : List Token) : Option Tree := do
  let fuel := 4 * ts.length + 8
  let noAnchors (handles : List (String × String)) : Anchors :=
    ⟨handles ++ Anchors.standardHandles, [], 0⟩
  if ts.isEmpty then return blank
  let (tree, _, ts) ←
    if isExplicit ts then do
      let (handles, ts) ← directives false [] ts
      match ts with
      | .documentStart :: rest => content fuel (noAnchors handles) rest
      | _ => none
    else node fuel true false (noAnchors []) ts
  if (ts.dropWhile (· = .documentEnd)).isEmpty then return tree else none

end Tree
end Yaml
end LayoutAudit
