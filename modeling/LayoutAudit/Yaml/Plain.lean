import LayoutAudit.Yaml.Gap

/-!
# Yaml.Plain — scalars without quotes

* `Plain.read` — reads a plain scalar, which may go on over several lines.
-/

namespace LayoutAudit
namespace Yaml
namespace Plain

/-- Does the scalar end at this place, within a word? -/
def ends (flow : Bool) (c : Cursor) : Bool :=
  (c.at? ':' && c.blankAt 1) ||
    (flow && (c.at? ',' || c.at? '[' || c.at? ']' || c.at? '\x7b' || c.at? '\x7d'))

/-- A colon that neither ends a key nor belongs to a word. -/
def strayColon (flow : Bool) (c : Cursor) : Bool :=
  flow && c.at? ':' &&
    match c.peek 1 with
    | some ch => [',', '?', '[', ']', '\x7b', '\x7d'].contains ch
    | none => false

def word (flow : Bool) : Nat → List Char → Cursor → Option (List Char × Cursor)
  | 0, acc, c => some (acc, c)
  | fuel + 1, acc, c =>
      match c.rest with
      | [] => some (acc, c)
      | ch :: _ =>
          if isBlank ch || isBreak ch then some (acc, c)
          else if strayColon flow c then none
          else if ends flow c then some (acc, c)
          else word flow fuel (ch :: acc) (c.skip 1)

/-- Reads words and gaps.  Gives the text in reverse order, and whether a line break was passed
behind its end. -/
def words (flow : Bool) (indent : Int) :
    Nat → List Char → Gap → Cursor → Option (List Char × Bool × Cursor)
  | 0, _, _, _ => none
  | fuel + 1, acc, gap, c =>
      if c.atDocumentMark || c.at? '#' then some (acc, gap.folded, c)
      else
        match word flow (c.rest.length + 1) [] c with
        | none => none
        | some ([], c) => some (acc, gap.folded, c)
        | some (found, c) =>
            let acc := found ++ gap.text.reverse ++ acc
            if c.rest.isEmpty || !c.blankAt 0 then some (acc, false, c)
            else
              match Gap.read indent (c.rest.length + 1) .none c with
              | none => none
              | some (gap, c) =>
                  if !flow && (c.column : Int) < indent then some (acc, gap.folded, c)
                  else words flow indent fuel acc gap c

/-- Reads a plain scalar.  Gives its text, and whether a line break was passed behind its end. -/
def read (flow : Bool) (indent : Int) (c : Cursor) : Option (String × Bool × Cursor) := do
  let (text, broken, c) ← words flow indent (c.rest.length + 1) [] .none c
  return (String.ofList text.reverse, broken, c)

end Plain
end Yaml
end LayoutAudit
