import LayoutAudit.Text.Character
import LayoutAudit.Text.Property.Alphabet
import LayoutAudit.Text.Property.Folding
import LayoutAudit.Text.Property.Letter
import LayoutAudit.Text.Property.Mark
import LayoutAudit.Text.Property.Numeral
import LayoutAudit.Text.Property.Punctuation
import LayoutAudit.Text.Property.Script
import LayoutAudit.Text.Property.Separator
import LayoutAudit.Text.Property.Symbol

/-!
# Pattern.Class — sets of characters in patterns

* `Pattern.Table` — the named sets of the Unicode standard;
* `Pattern.Class` — sets built from them, from ranges, and from one another;
* `Class.has` — membership; `Class.ofName?` — the set that a property name stands for.
-/

namespace LayoutAudit
namespace Pattern

open Text (Ranges)
open Text.Property

/-- The named sets that others are built from. -/
inductive Table where
  | upperLetter | lowerLetter | titleLetter | modifierLetter | otherLetter
  | nonspacingMark | spacingMark | enclosingMark
  | decimalDigit | letterNumber | otherNumber
  | connector | dash | opening | closing | initialQuote | finalQuote | otherPunctuation
  | mathSymbol | currencySymbol | modifierSymbol | otherSymbol
  | spaceSeparator | lineSeparator | paragraphSeparator
  | control | format | privateUse | unassigned
  | otherAlphabetic | otherUpper | otherLower | blank
  | latin | greek | cyrillic | arabic | hebrew | han | hiragana | katakana | hangul | thai
  | devanagari | common
  deriving DecidableEq, Repr

def Table.ranges : Table → Ranges
  | upperLetter => Text.Property.upperLetter
  | lowerLetter => Text.Property.lowerLetter
  | titleLetter => Text.Property.titleLetter
  | modifierLetter => Text.Property.modifierLetter
  | otherLetter => Text.Property.otherLetter
  | nonspacingMark => Text.Property.nonspacingMark
  | spacingMark => Text.Property.spacingMark
  | enclosingMark => Text.Property.enclosingMark
  | decimalDigit => Text.Property.decimalDigit
  | letterNumber => Text.Property.letterNumber
  | otherNumber => Text.Property.otherNumber
  | connector => Text.Property.connector
  | dash => Text.Property.dash
  | opening => Text.Property.opening
  | closing => Text.Property.closing
  | initialQuote => Text.Property.initialQuote
  | finalQuote => Text.Property.finalQuote
  | otherPunctuation => Text.Property.otherPunctuation
  | mathSymbol => Text.Property.mathSymbol
  | currencySymbol => Text.Property.currencySymbol
  | modifierSymbol => Text.Property.modifierSymbol
  | otherSymbol => Text.Property.otherSymbol
  | spaceSeparator => Text.Property.spaceSeparator
  | lineSeparator => Text.Property.lineSeparator
  | paragraphSeparator => Text.Property.paragraphSeparator
  | control => Text.Property.control
  | format => Text.Property.format
  | privateUse => Text.Property.privateUse
  | unassigned => Text.Property.unassigned
  | otherAlphabetic => Text.Property.otherAlphabetic
  | otherUpper => Text.Property.otherUpper
  | otherLower => Text.Property.otherLower
  | blank => Text.blanks
  | latin => Text.Property.latinScript
  | greek => Text.Property.greekScript
  | cyrillic => Text.Property.cyrillicScript
  | arabic => Text.Property.arabicScript
  | hebrew => Text.Property.hebrewScript
  | han => Text.Property.hanScript
  | hiragana => Text.Property.hiraganaScript
  | katakana => Text.Property.katakanaScript
  | hangul => Text.Property.hangulScript
  | thai => Text.Property.thaiScript
  | devanagari => Text.Property.devanagariScript
  | common => Text.Property.commonScript

inductive Class where
  | ranges (r : Ranges)
  | table (t : Table)
  | union (a b : Class)
  | inter (a b : Class)
  | diff (a b : Class)
  | complement (a : Class)
  /-- The set and all characters that differ from one of it only in case. -/
  | caseless (a : Class)
  deriving DecidableEq, Repr

namespace Class

/-- The code points that differ from one only in case, itself included. -/
def variants (n : Nat) : List Nat :=
  let target := fold n
  n :: target :: foldSources target

def has : Class → Nat → Bool
  | ranges r, n => r.has n
  | table t, n => t.ranges.has n
  | union a b, n => a.has n || b.has n
  | inter a b, n => a.has n && b.has n
  | diff a b, n => a.has n && !b.has n
  | complement a, n => !a.has n
  | caseless a, n => (variants n).any a.has

def empty : Class := ranges []

def any : Class := complement empty

def single (c : Char) : Class := ranges [(c.toNat, c.toNat)]

def tables (ts : List Table) : Class := (ts.map table).foldr union empty

def letter : Class :=
  tables [.lowerLetter, .upperLetter, .otherLetter, .modifierLetter, .titleLetter]

def alphabetic : Class := union letter (tables [.letterNumber, .otherAlphabetic])

def mark : Class := tables [.nonspacingMark, .spacingMark, .enclosingMark]

def word : Class :=
  union alphabetic
    (union (tables [.decimalDigit, .connector]) (union mark (ranges [(0x200C, 0x200D)])))

def asciiWord : Class := ranges [(0x30, 0x39), (0x41, 0x5A), (0x5F, 0x5F), (0x61, 0x7A)]

def ofAsciiName? : String → Option Class
  | "alnum" => some (ranges [(0x30, 0x39), (0x41, 0x5A), (0x61, 0x7A)])
  | "alpha" => some (ranges [(0x41, 0x5A), (0x61, 0x7A)])
  | "ascii" => some (ranges [(0, 0x7F)])
  | "blank" => some (ranges [(0x9, 0x9), (0x20, 0x20)])
  | "cntrl" => some (ranges [(0, 0x1F), (0x7F, 0x7F)])
  | "digit" => some (ranges [(0x30, 0x39)])
  | "graph" => some (ranges [(0x21, 0x7E)])
  | "lower" => some (ranges [(0x61, 0x7A)])
  | "print" => some (ranges [(0x20, 0x7E)])
  | "punct" => some (ranges [(0x21, 0x2F), (0x3A, 0x40), (0x5B, 0x60), (0x7B, 0x7E)])
  | "space" => some (ranges [(0x9, 0xD), (0x20, 0x20)])
  | "upper" => some (ranges [(0x41, 0x5A)])
  | "word" => some asciiWord
  | "xdigit" => some (ranges [(0x30, 0x39), (0x41, 0x46), (0x61, 0x66)])
  | _ => none

def ofCategory? : String → Option Class
  | "l" | "letter" => some letter
  | "lu" | "uppercaseletter" => some (table .upperLetter)
  | "ll" | "lowercaseletter" => some (table .lowerLetter)
  | "lt" | "titlecaseletter" => some (table .titleLetter)
  | "lc" | "casedletter" => some (tables [.upperLetter, .lowerLetter, .titleLetter])
  | "lm" | "modifierletter" => some (table .modifierLetter)
  | "lo" | "otherletter" => some (table .otherLetter)
  | "m" | "mark" | "combiningmark" => some mark
  | "mn" | "nonspacingmark" => some (table .nonspacingMark)
  | "mc" | "spacingmark" => some (table .spacingMark)
  | "me" | "enclosingmark" => some (table .enclosingMark)
  | "n" | "number" => some (tables [.decimalDigit, .letterNumber, .otherNumber])
  | "nd" | "decimalnumber" | "digit" => some (table .decimalDigit)
  | "nl" | "letternumber" => some (table .letterNumber)
  | "no" | "othernumber" => some (table .otherNumber)
  | "p" | "punctuation" | "punct" =>
      some (tables [.connector, .dash, .opening, .closing, .initialQuote, .finalQuote,
        .otherPunctuation])
  | "pc" | "connectorpunctuation" => some (table .connector)
  | "pd" | "dashpunctuation" => some (table .dash)
  | "ps" | "openpunctuation" => some (table .opening)
  | "pe" | "closepunctuation" => some (table .closing)
  | "pi" | "initialpunctuation" => some (table .initialQuote)
  | "pf" | "finalpunctuation" => some (table .finalQuote)
  | "po" | "otherpunctuation" => some (table .otherPunctuation)
  | "s" | "symbol" =>
      some (tables [.mathSymbol, .currencySymbol, .modifierSymbol, .otherSymbol])
  | "sm" | "mathsymbol" => some (table .mathSymbol)
  | "sc" | "currencysymbol" => some (table .currencySymbol)
  | "sk" | "modifiersymbol" => some (table .modifierSymbol)
  | "so" | "othersymbol" => some (table .otherSymbol)
  | "z" | "separator" => some (tables [.spaceSeparator, .lineSeparator, .paragraphSeparator])
  | "zs" | "spaceseparator" => some (table .spaceSeparator)
  | "zl" | "lineseparator" => some (table .lineSeparator)
  | "zp" | "paragraphseparator" => some (table .paragraphSeparator)
  | "c" | "other" => some (tables [.control, .format, .privateUse, .unassigned])
  | "cc" | "control" | "cntrl" => some (table .control)
  | "cf" | "format" => some (table .format)
  | "co" | "privateuse" => some (table .privateUse)
  | "cn" | "unassigned" => some (table .unassigned)
  | "any" => some any
  | "ascii" => some (ranges [(0, 0x7F)])
  | "assigned" => some (complement (table .unassigned))
  | _ => none

def ofScript? : String → Option Class
  | "latin" | "latn" => some (table .latin)
  | "greek" | "grek" => some (table .greek)
  | "cyrillic" | "cyrl" => some (table .cyrillic)
  | "arabic" | "arab" => some (table .arabic)
  | "hebrew" | "hebr" => some (table .hebrew)
  | "han" | "hani" => some (table .han)
  | "hiragana" | "hira" => some (table .hiragana)
  | "katakana" | "kana" => some (table .katakana)
  | "hangul" | "hang" => some (table .hangul)
  | "thai" => some (table .thai)
  | "devanagari" | "deva" => some (table .devanagari)
  | "common" | "zyyy" => some (table .common)
  | _ => none

def ofProperty? : String → Option Class
  | "alphabetic" | "alpha" => some alphabetic
  | "uppercase" | "upper" => some (tables [.upperLetter, .otherUpper])
  | "lowercase" | "lower" => some (tables [.lowerLetter, .otherLower])
  | "whitespace" | "wspace" | "space" => some (table .blank)
  | _ => none

/-- Names are compared without case, blanks, hyphens, underscores and a leading `is`. -/
def normalName (cs : List Char) : String :=
  let body := (cs.filter fun c => c != ' ' && c != '_' && c != '-').map Char.toLower
  match body with
  | 'i' :: 's' :: c :: rest => String.ofList (c :: rest)
  | body => String.ofList body

/-- The set that a name stands for: of a property, a general category or a script. -/
def ofName? (name : String) : Option Class :=
  (ofProperty? name).orElse fun _ => (ofCategory? name).orElse fun _ => ofScript? name

def ofValue? (property value : String) : Option Class :=
  if property ∈ ["generalcategory", "gc"] then ofCategory? value
  else if property ∈ ["script", "sc", "scriptextensions", "scx"] then ofScript? value
  else none

end Class
end Pattern
end LayoutAudit
