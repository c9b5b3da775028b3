import LayoutAudit.Yaml.Cursor

/-!
# Yaml.Gap — blanks and breaks between the words of a scalar

Blanks on one line stay as they are.  A single line break becomes a blank, and of several breaks
the first one goes.

* `Yaml.Gap`, `Gap.text` — a gap, and what it stands for;
* `Gap.read` — reading one.
-/

namespace LayoutAudit
namespace Yaml

/-- Blanks and breaks between two words. -/
structure Gap where
  /-- The gap reaches over a line break. -/
  folded : Bool
  /-- The blanks of a gap on one line. -/
  blanks : List Char
  /-- The first break. -/
  first : List Char
  /-- The breaks after the first. -/
  others : List Char
  deriving Repr

namespace Gap

def none : Gap := ⟨false, [], [], []⟩

/-- A gap behind a break that was escaped. -/
def escaped : Gap := ⟨true, [], [], []⟩

def text (g : Gap) : List Char :=
  if !g.folded then g.blanks
  else if g.first.head? = some '\n' then (if g.others.isEmpty then [' '] else g.others)
  else g.first ++ g.others

/-- Reads blanks and breaks.  On a new line, a tab in front of the column `indent` is refused. -/
def read (indent : Int) : Nat → Gap → Cursor → Option (Gap × Cursor)
  | 0, g, c => some (g, c)
  | fuel + 1, g, c =>
      match c.rest with
      | [] => some (g, c)
      | ch :: _ =>
          if isBlank ch then
            if !g.folded then read indent fuel { g with blanks := g.blanks ++ [ch] } (c.skip 1)
            else if ch = '\t' && (c.column : Int) < indent then Option.none
            else read indent fuel g (c.skip 1)
          else if isBreak ch then
            let (broken, next) := c.skipBreak
            if !g.folded then read indent fuel ⟨true, [], broken, []⟩ next
            else read indent fuel { g with others := g.others ++ broken } next
          else some (g, c)

end Gap
end Yaml
end LayoutAudit
