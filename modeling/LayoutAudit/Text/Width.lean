import LayoutAudit.Text.Property.Breadth
import LayoutAudit.Text.Property.Emoji
import LayoutAudit.Text.Property.Mark

/-!
# Text.Width — the columns that a text takes in a terminal

A character takes one column, an East Asian wide one two, and a mark none.  Some sequences are shown
as one: a line break of two characters, pictures joined to a picture, and a lam with its alef.

* `Text.charWidth` — the columns of a character by itself;
* `Text.width` — the columns of a text.
-/

namespace LayoutAudit
namespace Text

open Property

/-- Does a character take no column of its own? -/
def isBare (n : Nat) : Bool :=
  nonspacingMark.has n || enclosingMark.has n || otherExtending.has n || ignorable.has n ||
    trailingJamo.has n

def charWidth (c : Char) : Nat :=
  let n := c.toNat
  if n < 0x300 then (if n = 0xAD then 0 else 1)
  else if n = 0x115F then 2
  else if isBare n then 0
  else if wide.has n then 2
  else 1

def asPicture : Char := '\uFE0F'

/-- Asks for the plain form of a character. -/
def asText : Char := '\uFE0E'

/-- Joins pictures. -/
def joiner : Char := '\u200D'

def isPictureBase (c : Char) : Bool := emoji.has c.toNat || pictographic.has c.toNat

/-- A picture in front: its columns, whether it can be joined, and what is behind it. -/
def picture? : List Char → Option (Nat × List Char)
  | base :: mark :: rest =>
      if !isPictureBase base then none
      else if mark = asPicture then some (2, rest)
      else if emojiModifier.has mark.toNat && emojiBase.has base.toNat then some (2, rest)
      else if mark = asText && charWidth base = 2 then some (1, rest)
      else some (charWidth base, mark :: rest)
  | [base] => if isPictureBase base then some (charWidth base, []) else none
  | [] => none

/-- What is behind the pictures that are joined to one, and whether there are any. -/
def behindJoined : Nat → List Char → Bool × List Char
  | fuel + 1, c :: rest =>
      if c = joiner then
        match picture? rest with
        | some (_, rest) => (true, (behindJoined fuel rest).2)
        | none => (false, c :: rest)
      else (false, c :: rest)
  | _, cs => (false, cs)

/-- What is behind the alef of a lam, if it has one.  Marks in between do not part them. -/
def behindAlef? : List Char → Option (List Char)
  | [] => none
  | c :: rest =>
      if c = '\u0622' ∨ c = '\u0623' ∨ c = '\u0625' ∨ c = '\u0627' then some rest
      else if charWidth c = 0 ∧ c ≠ '\u200C' then behindAlef? rest
      else none

/-- The columns of what is in front, and what is behind it. -/
def front : List Char → Nat × List Char
  | [] => (0, [])
  | '\r' :: '\n' :: rest => (1, rest)
  | c :: rest =>
      if c = '\u0644' then (1, (behindAlef? rest).getD rest)
      else
        match picture? (c :: rest) with
        | none => (charWidth c, rest)
        | some (columns, behind) =>
            match behindJoined rest.length behind with
            | (true, behind) => (2, behind)
            | (false, _) => (columns, behind)

def widthOf : Nat → List Char → Nat
  | 0, _ => 0
  | _, [] => 0
  | fuel + 1, cs => (front cs).1 + widthOf fuel (front cs).2

/-- The columns that a text takes in a terminal. -/
def width (s : String) : Nat := widthOf s.toList.length s.toList

end Text
end LayoutAudit
