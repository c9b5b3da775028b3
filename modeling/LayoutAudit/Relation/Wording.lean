import LayoutAudit.Pattern.Reader
import LayoutAudit.Range
import LayoutAudit.Relation.Presence
import LayoutAudit.Text.Character
import LayoutAudit.Text.Quoted

/-!
# Relation.Wording — the text of elements

* `Text.occurs` — one text within another;
* `Wording`, `Relation.reads` — the trimmed text of an element passes a test;
* `Relation.lineCount` — the number of lines of an element passes a test.
-/

namespace LayoutAudit

open Json (Value)

def Text.occurs (needle : List Char) : List Char → Bool
  | [] => needle.isEmpty
  | c :: rest => needle.isPrefixOf (c :: rest) || occurs needle rest

inductive Wording where
  | equals (text : String)
  | contains (text : String)
  | fits (pattern : Pattern)
  deriving DecidableEq, Repr

namespace Wording

def relation : Wording → String
  | equals _ => "text_is"
  | contains _ => "text_contains"
  | fits _ => "text_matches"

def phrase : Wording → String
  | equals text => "be " ++ Text.quoted text
  | contains text => "contain " ++ Text.quoted text
  | fits pattern => "match /" ++ pattern.source ++ "/"

def holds (wording : Wording) (text : String) : Bool :=
  match wording with
  | equals expected => text == expected
  | contains needle => Text.occurs needle.toList text.toList
  | fits pattern => pattern.occursIn text

end Wording

namespace Element

def trimmedText (e : Element) : String := Text.trim e.text

/-- The number of lines; without line metrics, a text that is not blank is one line. -/
def lineCount (e : Element) : Nat :=
  match e.lines with
  | some lines => lines.length
  | none => if e.trimmedText.isEmpty then 0 else 1

end Element

namespace Relation

/-- The trimmed text passes the test. -/
def reads (wording : Wording) (e : Element) : List Violation :=
  whenPresent wording.relation [e] <|
    require (wording.holds e.trimmedText) <|
      .detailed wording.relation
        (quote e.selector ++ " text " ++ Text.quoted e.trimmedText ++ " should " ++ wording.phrase)
        [("actual", .string e.trimmedText)]

/-- The number of lines passes the test. -/
def lineCount (range : Range) (e : Element) : List Violation :=
  whenPresent "line_count" [e] <|
    require (range.admits (Float.ofNat e.lineCount)) <|
      .detailed "line_count"
        (quote e.selector ++ " renders " ++ toString e.lineCount ++ " line(s), expected " ++
          range.text)
        [("count", .nat e.lineCount), ("expected", range.encode)]

end Relation
end LayoutAudit
