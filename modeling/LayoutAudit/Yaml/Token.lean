import LayoutAudit.Wire.Scalar
import LayoutAudit.Yaml.Block
import LayoutAudit.Yaml.Plain
import LayoutAudit.Yaml.Quoted

/-!
# Yaml.Token — the tokens of a text

Indentation is turned into tokens that open and close blocks.  Whether something is a key is known
only when its colon comes, so every place where a key may begin leaves a slot among the tokens; a
colon fills the slot, and slots that stay empty vanish at the end.

* `Yaml.Token` — the tokens;
* `Yaml.Lexer` — what has been read: tokens, slots, indentations;
* `Token.ofText?` — the tokens of a text.
-/

namespace LayoutAudit
namespace Yaml

open Wire (ScalarStyle)

inductive Token where
  /-- A version of the format, or a directive that changes nothing here. -/
  | version (major minor : Nat)
  /-- A handle for tags. -/
  | handle (handle tagStart : String)
  | documentStart
  | documentEnd
  | blockSequence
  | blockMapping
  | blockEnd
  | flowSequence
  | flowSequenceEnd
  | flowMapping
  | flowMappingEnd
  | blockEntry
  | flowEntry
  | key
  | value
  | alias (name : String)
  | anchor (name : String)
  | tag (handle rest : String)
  | scalar (text : String) (style : ScalarStyle)
  deriving DecidableEq, Repr

/-- A token, or a slot for the tokens in front of a key. -/
inductive Item where
  | token (t : Token)
  | slot (number : Nat)
  deriving Repr

/-- A place where a key may have begun. -/
structure Candidate where
  slot : Nat
  /-- Nothing but a key can stand there. -/
  required : Bool
  index : Nat
  line : Nat
  column : Nat
  deriving Repr

structure Lexer where
  cursor : Cursor
  /-- What has been found, the latest first. -/
  items : List Item
  /-- The tokens of the slots that were filled. -/
  filled : List (Nat × List Token)
  slots : Nat
  /-- The indentation of the innermost block; `-1` outside all blocks. -/
  indent : Int
  indents : List Int
  flowLevel : Nat
  /-- A key may begin here. -/
  keyAllowed : Bool
  /-- The place where a key may have begun, for each level of flow collections. -/
  candidate : Option Candidate
  outer : List (Option Candidate)

namespace Lexer

def start (text : List Char) : Lexer where
  cursor := .start text
  items := []
  filled := []
  slots := 0
  indent := -1
  indents := []
  flowLevel := 0
  keyAllowed := true
  candidate := none
  outer := []

def push (s : Lexer) (t : Token) : Lexer := { s with items := .token t :: s.items }

def inFlow (s : Lexer) : Bool := s.flowLevel ≠ 0

def column (s : Lexer) : Int := s.cursor.column

/-- Gives a candidate up; a required one cannot be given up. -/
def dropCandidate (s : Lexer) : Option Lexer :=
  match s.candidate with
  | some k => if k.required then none else some { s with candidate := none }
  | none => some s

def noteCandidate (s : Lexer) : Option Lexer :=
  if !s.keyAllowed then some s
  else do
    let s ← s.dropCandidate
    let k : Candidate :=
      ⟨s.slots, !s.inFlow && s.indent = s.column, s.cursor.index, s.cursor.line, s.cursor.column⟩
    return { s with candidate := some k, slots := s.slots + 1, items := .slot s.slots :: s.items }

/-- A key stands on one line and is not too long. -/
def isStale (s : Lexer) (k : Candidate) : Bool :=
  k.line < s.cursor.line || k.index + 1024 < s.cursor.index

/-- Gives a candidate up if no key can have begun there any more. -/
def refresh (s : Lexer) : Option Candidate → Option (Option Candidate)
  | none => some none
  | some k => if s.isStale k then (if k.required then none else some none) else some (some k)

def refreshAll (s : Lexer) : Option Lexer := do
  return { s with candidate := ← s.refresh s.candidate, outer := ← s.outer.mapM s.refresh }

/-- Opens a block at a column, if that is further in.  Says whether it did. -/
def openBlock (s : Lexer) (column : Int) : Bool × Lexer :=
  if !s.inFlow && s.indent < column then
    (true, { s with indent := column, indents := s.indent :: s.indents })
  else (false, s)

def openWith (s : Lexer) (t : Token) : Lexer :=
  match s.openBlock s.column with
  | (true, s) => s.push t
  | (false, s) => s

/-- Closes the blocks that are further in than a column. -/
def closeBlocks (column : Int) : List Int → Lexer → Lexer
  | [], s => s
  | indent :: rest, s =>
      if s.indent > column then
        closeBlocks column rest { s.push .blockEnd with indent := indent, indents := rest }
      else s

/-- Closes the blocks that are further in than a column; flow collections have no blocks. -/
def closeTo (s : Lexer) (column : Int) : Lexer :=
  if s.inFlow then s else closeBlocks column s.indents s

/-- Moves over blanks, comments and breaks. -/
def skipBlanks : Nat → Lexer → Lexer
  | 0, s => s
  | fuel + 1, s =>
      let c := s.cursor
      let c := if c.column = 0 && c.at? '\ufeff' then c.skip 1 else c
      let tabs := s.inFlow || !s.keyAllowed
      let c := c.skipWhile fun ch => ch = ' ' || (tabs && ch = '\t')
      let c := if c.at? '#' then c.skipWhile (!isBreak ·) else c
      match c.skipBreak with
      | ([], _) => { s with cursor := c }
      | (_, c) => skipBlanks fuel { s with cursor := c, keyAllowed := s.keyAllowed || !s.inFlow }

def indicator (s : Lexer) (length : Nat) (t : Token) : Lexer :=
  { s.push t with cursor := s.cursor.skip length }

/-- Ends all blocks in front of a directive, a mark of a document, or the end of the text. -/
def endBlocks (s : Lexer) : Option Lexer := do
  let s ← (s.closeTo (-1)).dropCandidate
  return { s with keyAllowed := false }

/-- Reads a line that starts or ends a document. -/
def documentMark (s : Lexer) (t : Token) : Option Lexer := do
  return (← s.endBlocks).indicator 3 t

def openFlow (s : Lexer) (t : Token) : Option Lexer := do
  let s ← s.noteCandidate
  let s := { s with
    outer := s.candidate :: s.outer, candidate := none, flowLevel := s.flowLevel + 1
    keyAllowed := true }
  return s.indicator 1 t

def closeFlow (s : Lexer) (t : Token) : Option Lexer := do
  let s ← s.dropCandidate
  let s := match s.outer with
    | k :: rest => { s with candidate := k, outer := rest, flowLevel := s.flowLevel - 1 }
    | [] => s
  return { s with keyAllowed := false }.indicator 1 t

def flowEntry (s : Lexer) : Option Lexer := do
  let s ← s.dropCandidate
  return { s with keyAllowed := true }.indicator 1 .flowEntry

def blockEntry (s : Lexer) : Option Lexer := do
  if !s.inFlow && !s.keyAllowed then none
  let s ← (s.openWith .blockSequence).dropCandidate
  return { s with keyAllowed := true }.indicator 1 .blockEntry

def explicitKey (s : Lexer) : Option Lexer := do
  if !s.inFlow && !s.keyAllowed then none
  let s ← (s.openWith .blockMapping).dropCandidate
  return { s with keyAllowed := !s.inFlow }.indicator 1 .key

/-- Reads a colon: behind a candidate it makes that a key. -/
def value (s : Lexer) : Option Lexer :=
  match s.candidate with
  | some k =>
      let (opened, s) := s.openBlock k.column
      let tokens : List Token := if opened then [.blockMapping, .key] else [.key]
      some <| { s with
        filled := (k.slot, tokens) :: s.filled, candidate := none
        keyAllowed := false }.indicator 1 .value
  | none => do
      if !s.inFlow && !s.keyAllowed then none
      let s := s.openWith .blockMapping
      return { s with keyAllowed := !s.inFlow }.indicator 1 .value

def named (s : Lexer) (token : String → Token) : Option Lexer := do
  let s ← s.noteCandidate
  let c := s.cursor.skip 1
  let name := c.rest.takeWhile isNameChar
  let c := c.skip name.length
  let ended := c.blankAt 0 ||
    match c.rest.head? with
    | some ch => ['?', ':', ',', ']', '\x7d', '%', '@', '\x60'].contains ch
    | none => true
  if name.isEmpty || !ended then none
  return { s.push (token (String.ofList name)) with cursor := c, keyAllowed := false }

def blockScalar (s : Lexer) (literal : Bool) : Option Lexer := do
  let s ← s.dropCandidate
  let (text, c) ← Block.read literal s.indent (s.cursor.skip 1)
  let style : ScalarStyle := if literal then .literal else .quoted
  return { s.push (.scalar text style) with cursor := c, keyAllowed := true }

def quotedScalar (s : Lexer) (single : Bool) : Option Lexer := do
  let s ← s.noteCandidate
  let (text, c) ← Quoted.read single (s.cursor.skip 1)
  return { s.push (.scalar text .quoted) with cursor := c, keyAllowed := false }

def plainScalar (s : Lexer) : Option Lexer := do
  let s ← s.noteCandidate
  let (text, broken, c) ← Plain.read s.inFlow (s.indent + 1) s.cursor
  return { s.push (.scalar text .plain) with cursor := c, keyAllowed := broken }

end Lexer

namespace Tag

def marks : List Char :=
  [';', '/', '?', ':', '@', '&', '=', '+', '$', '.', '%', '!', '~', '*', '\'', '(', ')']

/-- A character of a tag; some belong to it only between angle brackets. -/
def isChar (verbatim : Bool) (c : Char) : Bool :=
  isNameChar c || marks.contains c || (verbatim && [',', '[', ']'].contains c)

def byte? : List Char → Option (Nat × List Char)
  | '%' :: a :: b :: rest => (Text.digits? 16 [a, b]).map fun n => (n, rest)
  | _ => none

/-- The number of bytes of a character, told by the first of them. -/
def width? (first : Nat) : Option Nat :=
  if first < 0x80 then some 1
  else if 0xC0 ≤ first && first < 0xE0 then some 2
  else if 0xE0 ≤ first && first < 0xF0 then some 3
  else if 0xF0 ≤ first && first < 0xF8 then some 4
  else none

def moreBytes : Nat → List Char → Option (List Nat × List Char)
  | 0, cs => some ([], cs)
  | n + 1, cs => do
      let (byte, cs) ← byte? cs
      if byte / 64 ≠ 2 then none
      let (bytes, cs) ← moreBytes n cs
      return (byte :: bytes, cs)

def escaped? (cs : List Char) : Option (List Char × List Char) := do
  let (first, cs) ← byte? cs
  let width ← width? first
  let (bytes, cs) ← moreBytes (width - 1) cs
  let text ← String.fromUTF8? (ByteArray.mk ((first :: bytes).map Nat.toUInt8).toArray)
  return (text.toList, cs)

def unescape : Nat → List Char → Option (List Char)
  | 0, _ => some []
  | _ + 1, [] => some []
  | fuel + 1, c :: rest =>
      if c = '%' then do
        let (text, rest) ← escaped? (c :: rest)
        return text ++ (← unescape fuel rest)
      else do return c :: (← unescape fuel rest)

/-- Reads the characters of a tag, behind what is known of it already. -/
def readRest (verbatim : Bool) (head : List Char) (c : Cursor) : Option (List Char × Cursor) := do
  let raw := c.rest.takeWhile (isChar verbatim)
  let text ← unescape (raw.length + 1) raw
  if head.isEmpty && raw.isEmpty then none
  return (head.drop 1 ++ text, c.skip raw.length)

def readHandle (directive : Bool) (c : Cursor) : Option (List Char × Cursor) :=
  match c.rest with
  | '!' :: rest =>
      let name := rest.takeWhile isNameChar
      let c := c.skip (name.length + 1)
      if c.at? '!' then some ('!' :: name ++ ['!'], c.skip 1)
      else if directive && !name.isEmpty then none
      else some ('!' :: name, c)
  | _ => none

def read (c : Cursor) : Option (String × String × Cursor) :=
  if c.peek 1 = some '<' then do
    let (text, c) ← readRest true [] (c.skip 2)
    if !c.at? '>' then none
    return ("", String.ofList text, c.skip 1)
  else do
    let (handle, c) ← readHandle false c
    if handle.length > 1 && handle.getLast? = some '!' then
      let (text, c) ← readRest false [] c
      return (String.ofList handle, String.ofList text, c)
    else
      let (text, c) ← readRest false handle c
      if text.isEmpty then return ("", "!", c)
      return ("!", String.ofList text, c)

end Tag

namespace Lexer

def tag (s : Lexer) : Option Lexer := do
  let s ← s.noteCandidate
  let (handle, rest, c) ← Tag.read s.cursor
  if !(s.inFlow && c.at? ',') && !c.blankAt 0 then none
  return { s.push (.tag handle rest) with cursor := c, keyAllowed := false }

def versionNumber (c : Cursor) : Option (Nat × Cursor) := do
  let digits := c.rest.takeWhile Char.isDigit
  if digits.length > 9 then none
  return (← Text.digits? 10 digits, c.skip digits.length)

def directiveToken (name : String) (c : Cursor) : Option (Token × Cursor) := do
  let c := c.skipWhile isBlank
  match name with
  | "YAML" =>
      let (major, c) ← versionNumber c
      if !c.at? '.' then none
      let (minor, c) ← versionNumber (c.skip 1)
      return (.version major minor, c)
  | "TAG" =>
      let (handle, c) ← Tag.readHandle true c
      if c.rest.isEmpty || !c.rest.head?.any isBlank then none
      let c := c.skipWhile isBlank
      let (text, c) ← Tag.readRest true [] c
      if !c.blankAt 0 then none
      return (.handle (String.ofList handle) (String.ofList text), c)
  | _ => none

def directive (s : Lexer) : Option Lexer := do
  let s ← s.endBlocks
  let c := s.cursor.skip 1
  let name := c.rest.takeWhile isNameChar
  let c := c.skip name.length
  if name.isEmpty || !c.blankAt 0 then none
  let (t, c) ← directiveToken (String.ofList name) c
  let c := c.skipWhile isBlank
  let c := if c.at? '#' then c.skipWhile (!isBreak ·) else c
  if !c.blankAt 0 then none
  return { s.push t with cursor := c.skipBreak.2 }

/-- Characters that begin something other than a plain scalar. -/
def indicators : List Char :=
  [',', '[', ']', '\x7b', '\x7d', '#', '&', '*', '!', '|', '>', '\'', '"', '%', '@', '\x60']

def beginsPlain (s : Lexer) (ch : Char) : Bool :=
  if ch = '-' then !(s.cursor.peek 1).any isBlank
  else if ch = '?' || ch = ':' then !s.inFlow && !s.cursor.blankAt 1
  else !(indicators.contains ch) && !isBlank ch

def dispatch (s : Lexer) (ch : Char) : Option Lexer :=
  let c := s.cursor
  if c.column = 0 && ch = '%' then s.directive
  else if c.atDocumentMark then s.documentMark (if ch = '-' then .documentStart else .documentEnd)
  else if ch = '[' then s.openFlow .flowSequence
  else if ch = '\x7b' then s.openFlow .flowMapping
  else if ch = ']' then s.closeFlow .flowSequenceEnd
  else if ch = '\x7d' then s.closeFlow .flowMappingEnd
  else if ch = ',' then s.flowEntry
  else if ch = '-' && c.blankAt 1 then s.blockEntry
  else if ch = '?' && (s.inFlow || c.blankAt 1) then s.explicitKey
  else if ch = ':' && (s.inFlow || c.blankAt 1) then s.value
  else if ch = '*' then s.named .alias
  else if ch = '&' then s.named .anchor
  else if ch = '!' then s.tag
  else if ch = '|' && !s.inFlow then s.blockScalar true
  else if ch = '>' && !s.inFlow then s.blockScalar false
  else if ch = '\'' then s.quotedScalar true
  else if ch = '"' then s.quotedScalar false
  else if s.beginsPlain ch then s.plainScalar
  else none

def readAll : Nat → Lexer → Option Lexer
  | 0, _ => none
  | fuel + 1, s => do
      let s := skipBlanks (s.cursor.rest.length + 1) s
      let s ← s.refreshAll
      let s := s.closeTo s.column
      match s.cursor.rest with
      | [] => s.endBlocks
      | ch :: _ => readAll fuel (← s.dispatch ch)

/-- The tokens, with those of the slots that were filled. -/
def tokens (s : Lexer) : List Token :=
  s.items.reverse.flatMap fun
    | .token t => [t]
    | .slot n => (s.filled.lookup n).getD []

end Lexer

def Token.ofText? (text : String) : Option (List Token) := do
  let cs := text.toList
  if !cs.all isAllowed then none
  return (← Lexer.readAll (cs.length + 2) (.start cs)).tokens

end Yaml
end LayoutAudit
