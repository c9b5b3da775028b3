/-!
# Yaml.Cursor — a place in a text

Columns and lines decide what a text means, so a place knows both.

* `Yaml.isBreak`, `Yaml.isBlank` — line breaks and blanks;
* `Yaml.Cursor` — what is left of a text, and where it begins;
* `Cursor.skip`, `Cursor.skipBreak` — moving on.
-/

namespace LayoutAudit
namespace Yaml

/-- A character that ends a line. -/
def isBreak (c : Char) : Bool :=
  c = '\r' || c = '\n' || c = '\u0085' || c = '\u2028' || c = '\u2029'

/-- A blank or a tab. -/
def isBlank (c : Char) : Bool := c = ' ' || c = '\t'

def isNameChar (c : Char) : Bool := c.isAlphanum || c = '_' || c = '-'

structure Cursor where
  rest : List Char
  index : Nat
  line : Nat
  column : Nat
  deriving Repr

namespace Cursor

def start (cs : List Char) : Cursor := ⟨cs, 0, 0, 0⟩

def peek (c : Cursor) (distance : Nat) : Option Char := c.rest[distance]?

def at? (c : Cursor) (ch : Char) : Bool := c.rest.head? = some ch

/-- Is the character at a distance a blank, a break, or the end of the text? -/
def blankAt (c : Cursor) (distance : Nat) : Bool :=
  match c.peek distance with
  | none => true
  | some ch => isBlank ch || isBreak ch

/-- Moves over characters that are no breaks. -/
def skip (c : Cursor) (count : Nat) : Cursor :=
  { c with rest := c.rest.drop count, index := c.index + count, column := c.column + count }

/-- Moves over characters of a class that holds no break. -/
def skipWhile (c : Cursor) (p : Char → Bool) : Cursor := c.skip (c.rest.takeWhile p).length

/-- Moves over a line break, if there is one, and gives it in its plain form. -/
def skipBreak (c : Cursor) : List Char × Cursor :=
  match c.rest with
  | '\r' :: '\n' :: rest => (['\n'], ⟨rest, c.index + 2, c.line + 1, 0⟩)
  | ch :: rest =>
      if isBreak ch then
        (if ch = '\u2028' || ch = '\u2029' then [ch] else ['\n'],
          ⟨rest, c.index + 1, c.line + 1, 0⟩)
      else ([], c)
  | [] => ([], c)

/-- Does a line that ends or begins a document start here? -/
def atDocumentMark (c : Cursor) : Bool :=
  c.column = 0 && (['-', '-', '-'].isPrefixOf c.rest || ['.', '.', '.'].isPrefixOf c.rest) &&
    c.blankAt 3

end Cursor

/-- May the character occur in a text at all? -/
def isAllowed (c : Char) : Bool :=
  let n := c.toNat
  c = '\t' || c = '\n' || c = '\r' || (0x20 ≤ n && n ≤ 0x7E) || n = 0x85 ||
    (0xA0 ≤ n && n ≤ 0xD7FF) || (0xE000 ≤ n && n ≤ 0xFFFD) || 0x10000 ≤ n

end Yaml
end LayoutAudit
