import LayoutAudit.Text.Property.Mark
import LayoutAudit.Text.Property.Separator

/-!
# Text.Quoted — texts as they stand in messages

A text in double quotes in which every character can be seen: quotes, backslashes and the common
control characters are written with a letter, and what is not printable or only extends the
character before it as its code point in braces.

* `Text.isPrintable`, `Text.isExtending` — the classes;
* `Text.quoted` — the quoted text.
-/

namespace LayoutAudit
namespace Text

open Property

/-- Can the character be seen?  Of the separators only the ASCII blank can. -/
def isPrintable (c : Char) : Bool :=
  let n := c.toNat
  if n < 0x7F then 0x20 ≤ n
  else !(control.has n || format.has n || privateUse.has n || unassigned.has n ||
    spaceSeparator.has n || lineSeparator.has n || paragraphSeparator.has n)

/-- Does the character only extend the one before it? -/
def isExtending (c : Char) : Bool :=
  let n := c.toNat
  0x300 ≤ n && (nonspacingMark.has n || enclosingMark.has n || otherExtending.has n)

def quotedChar (c : Char) : List Char :=
  if c = '"' then ['\\', '"']
  else if c = '\\' then ['\\', '\\']
  else if c = '\n' then ['\\', 'n']
  else if c = '\r' then ['\\', 'r']
  else if c = '\t' then ['\\', 't']
  else if c = '\x00' then ['\\', '0']
  else if isExtending c || !isPrintable c then
    '\\' :: 'u' :: '{' :: (Nat.toDigits 16 c.toNat ++ ['}'])
  else [c]

def quoted (s : String) : String :=
  String.ofList ('"' :: (s.toList.flatMap quotedChar ++ ['"']))

end Text
end LayoutAudit
