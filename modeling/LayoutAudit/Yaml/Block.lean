import LayoutAudit.Text.Character
import LayoutAudit.Yaml.Cursor

/-!
# Yaml.Block — scalars of whole lines

* `Block.Header` — which breaks at the end are kept, and how far the lines are indented;
* `Block.read` — reads a literal or a folded scalar behind its indicator.
-/

namespace LayoutAudit
namespace Yaml
namespace Block

/-- What happens to the breaks at the end. -/
inductive Chomp where
  | strip
  | clip
  | keep
  deriving DecidableEq, Repr

/-- The first line of a block scalar. -/
structure Header where
  chomp : Chomp
  /-- The indentation relative to the surroundings, where it is given. -/
  indent : Option Nat
  deriving Repr

def readChomp (c : Cursor) : Option Chomp × Cursor :=
  if c.at? '+' then (some .keep, c.skip 1)
  else if c.at? '-' then (some .strip, c.skip 1)
  else (none, c)

/-- Reads an indentation, which is not zero. -/
def readIndent (c : Cursor) : Option (Option Nat × Cursor) :=
  match c.rest.head? with
  | some ch =>
      if ch.isDigit then
        if ch = '0' then none else some (some (ch.toNat - '0'.toNat), c.skip 1)
      else some (none, c)
  | none => some (none, c)

def readHeader (c : Cursor) : Option (Header × Cursor) := do
  let (before, c) := readChomp c
  let (indent, c) ← readIndent c
  let (chomp, c) := match before, indent with
    | none, some _ => readChomp c
    | _, _ => (before, c)
  let c := c.skipWhile isBlank
  let c := if c.at? '#' then c.skipWhile (!isBreak ·) else c
  if !c.rest.isEmpty && !c.blankAt 0 then none
  return (⟨chomp.getD .clip, indent⟩, c.skipBreak.2)

/-- Reads the indentation and the breaks of blank lines.  Without a known indentation, gives the
greatest column that was reached. -/
def readBreaks (indent : Option Nat) :
    Nat → Nat → List Char → Cursor → Option (List Char × Nat × Cursor)
  | 0, greatest, acc, c => some (acc, greatest, c)
  | fuel + 1, greatest, acc, c =>
      let room : Nat := match indent with
        | some n => n - c.column
        | none => c.rest.length
      let c := c.skip ((c.rest.takeWhile (· = ' ')).length.min room)
      let greatest := max greatest c.column
      let inIndent := match indent with
        | some n => decide (c.column < n)
        | none => true
      if inIndent && c.at? '\t' then none
      else
        match c.skipBreak with
        | ([], _) => some (acc, greatest, c)
        | (broken, c) => readBreaks indent fuel greatest (acc ++ broken) c

structure Progress where
  /-- The text in reverse order. -/
  text : List Char
  /-- The break behind the last line. -/
  ending : List Char
  /-- The breaks of the blank lines behind it. -/
  blankLines : List Char
  /-- The last line began with a blank. -/
  indented : Bool

/-- What stands between the lines read so far and a next one.  In a folded scalar a single break
becomes a blank, unless a line beside it begins with one. -/
def joint (literal : Bool) (p : Progress) (nextIndented : Bool) : List Char :=
  if !literal && p.ending.head? = some '\n' && !p.indented && !nextIndented then
    if p.blankLines.isEmpty then [' '] else p.blankLines
  else p.ending ++ p.blankLines

def readLines (literal : Bool) (indent : Nat) : Nat → Progress → Cursor → Option (Progress × Cursor)
  | 0, p, c => some (p, c)
  | fuel + 1, p, c =>
      if c.column ≠ indent || c.rest.isEmpty then some (p, c)
      else
        let indented := c.rest.head?.any isBlank
        let line := c.rest.takeWhile (!isBreak ·)
        let text := line.reverse ++ (joint literal p indented).reverse ++ p.text
        let (ending, c) := (c.skip line.length).skipBreak
        match readBreaks (some indent) (c.rest.length + 1) 0 [] c with
        | none => none
        | some (blankLines, _, c) =>
            readLines literal indent fuel ⟨text, ending, blankLines, indented⟩ c

/-- Reads a block scalar behind its indicator; `parent` is the indentation around it. -/
def read (literal : Bool) (parent : Int) (c : Cursor) : Option (String × Cursor) := do
  let (header, c) ← readHeader c
  let given := header.indent.map fun n => if 0 ≤ parent then parent.toNat + n else n
  let (breaks, greatest, c) ← readBreaks given (c.rest.length + 1) 0 [] c
  let indent := given.getD (max greatest (max (parent + 1).toNat 1))
  let (p, c) ← readLines literal indent (c.rest.length + 1) ⟨[], [], breaks, false⟩ c
  let tail := match header.chomp with
    | .strip => []
    | .clip => p.ending
    | .keep => p.ending ++ p.blankLines
  return (String.ofList (p.text.reverse ++ tail), c)

end Block
end Yaml
end LayoutAudit
