import LayoutAudit.Pattern.Search
import LayoutAudit.Text.Character

/-!
# Pattern.Reader — patterns as text

The text form of regular expressions: alternation, repetition, groups with flags, classes with set
operations, and conditions on positions.  There is no looking around and no reference to a group.

* `Pattern.Flags` — what the flags of a group decide;
* `Pattern.ofText?` — the pattern that a text stands for, unless it is not well formed;
* `Pattern.occursIn` — does a pattern occur in a text?
-/

namespace LayoutAudit

/-- A pattern: its text, and what the text stands for. -/
structure Pattern where
  source : String
  expr : Pattern.Expr
  deriving DecidableEq, Repr

namespace Pattern

structure Flags where
  caseless : Bool
  multiline : Bool
  dotAll : Bool
  unicode : Bool
  anyLineEnd : Bool
  verbose : Bool
  deriving DecidableEq, Repr

def Flags.initial : Flags := ⟨false, false, false, true, false, false⟩

/-- Turns a flag on or off.  Which of several matches is preferred makes no difference to whether
there is one, so that flag changes nothing. -/
def Flags.turn (f : Flags) (on : Bool) : Char → Option Flags
  | 'i' => some { f with caseless := on }
  | 'm' => some { f with multiline := on }
  | 's' => some { f with dotAll := on }
  | 'u' => some { f with unicode := on }
  | 'R' => some { f with anyLineEnd := on }
  | 'x' => some { f with verbose := on }
  | 'U' => some f
  | _ => none

/-- Skips what a verbose pattern passes over: blanks, and comments up to the end of the line. -/
def skipBlanks (f : Flags) : Nat → List Char → List Char
  | 0, cs => cs
  | fuel + 1, cs =>
      if !f.verbose then cs
      else match cs with
        | c :: rest =>
            if Text.isBlank c then skipBlanks f fuel rest
            else if c = '#' then skipBlanks f fuel (rest.dropWhile (· != '\n'))
            else c :: rest
        | [] => []

/-- The text behind the blanks of a verbose pattern. -/
def behindBlanks (f : Flags) (cs : List Char) : List Char := skipBlanks f (cs.length + 1) cs

/-! ## Escapes -/

inductive Escape where
  | char (c : Char)
  | set (s : Class)
  | look (l : Look)
  deriving Repr

/-- Characters that mean something unless they are escaped. -/
def isMeta (c : Char) : Bool :=
  c ∈ ['\\', '.', '+', '*', '?', '(', ')', '|', '[', ']', '{', '}', '^', '$', '#', '&', '-', '~']

/-- Characters that stand for themselves behind a backslash. -/
def isEscapable (c : Char) : Bool :=
  isMeta c || (c.toNat < 0x80 && !c.isAlphanum && c != '<' && c != '>')

def wordSet (f : Flags) : Class := if f.unicode then .word else .asciiWord

def digitSet (f : Flags) : Class :=
  if f.unicode then .table .decimalDigit else .ranges [(0x30, 0x39)]

def blankSet (f : Flags) : Class :=
  if f.unicode then .table .blank else .ranges [(0x9, 0xD), (0x20, 0x20)]

/-- A set or its complement.  Without Unicode a complement would hold parts of characters. -/
def signed (f : Flags) (negated : Bool) (s : Class) : Option Class :=
  if !negated then some s else if f.unicode then some (.complement s) else none

/-- The set of a letter that stands for a class, and whether its complement is meant. -/
def letterSet? (f : Flags) : Char → Option (Bool × Class)
  | 'd' => some (false, digitSet f)
  | 'D' => some (true, digitSet f)
  | 's' => some (false, blankSet f)
  | 'S' => some (true, blankSet f)
  | 'w' => some (false, wordSet f)
  | 'W' => some (true, wordSet f)
  | _ => none

def letterChar? : Char → Option Char
  | 'a' => some '\x07'
  | 'f' => some '\x0c'
  | 't' => some '\t'
  | 'n' => some '\n'
  | 'r' => some '\r'
  | 'v' => some '\x0b'
  | _ => none

def letterLook? (f : Flags) : Char → Option Look
  | 'A' => some .textStart
  | 'z' => some .textEnd
  | 'B' => some (.noWordEdge (wordSet f))
  | '<' => some (.wordStart (wordSet f))
  | '>' => some (.wordEnd (wordSet f))
  | _ => none

def charOf? (n : Nat) : Option Char :=
  if n < 0xD800 ∨ (0xDFFF < n ∧ n < 0x110000) then some (Char.ofNat n) else none

/-- Splits a text at its first closing brace. -/
def untilBrace (cs : List Char) : Option (List Char × List Char) :=
  match cs.dropWhile (· != '}') with
  | [] => none
  | _ :: rest => some (cs.takeWhile (· != '}'), rest)

/-- Reads a code point in hexadecimal: in braces, or with as many digits as the letter asks for.
Two digits beyond ASCII are half a character without Unicode. -/
def readHex (f : Flags) (letter : Char) (cs : List Char) : Option (Escape × List Char) :=
  match cs with
  | '{' :: rest => do
      let (body, rest) ← untilBrace rest
      let n ← Text.digits? 16 body
      return (.char (← charOf? n), rest)
  | cs => do
      let count := if letter = 'x' then 2 else if letter = 'u' then 4 else 8
      if cs.length < count then none
      let n ← Text.digits? 16 (cs.take count)
      if letter = 'x' ∧ 0x80 ≤ n ∧ !f.unicode then none
      return (.char (← charOf? n), cs.drop count)

/-- Splits a property at its operator, if it has one: name, value, and whether all else is meant. -/
def splitProperty : List Char → Option (List Char × List Char × Bool)
  | [] => none
  | '!' :: '=' :: rest => some ([], rest, true)
  | c :: rest =>
      (splitProperty rest).map fun (name, value, negated) => (c :: name, value, negated)

def splitAt? (c : Char) (cs : List Char) : Option (List Char × List Char) :=
  match cs.dropWhile (· != c) with
  | [] => none
  | _ :: rest => some (cs.takeWhile (· != c), rest)

/-- The set of a property, and whether its complement is meant. -/
def propertySet? (body : List Char) : Option (Bool × Class) :=
  let ofPair (name value : List Char) :=
    Class.ofValue? (Class.normalName name) (Class.normalName value)
  match splitProperty body with
  | some (name, value, _) => (ofPair name value).map (true, ·)
  | none =>
      match (splitAt? ':' body).orElse fun _ => splitAt? '=' body with
      | some (name, value) => (ofPair name value).map (false, ·)
      | none => (Class.ofName? (Class.normalName body)).map (false, ·)

def readProperty (f : Flags) (negated : Bool) (cs : List Char) : Option (Escape × List Char) := do
  let (body, rest) ← match cs with
    | [] => none
    | '{' :: rest => untilBrace rest
    | '\\' :: _ => none
    | c :: rest => some ([c], rest)
  let (inverse, s) ← propertySet? body
  if !f.unicode then none
  return (.set (if negated != inverse then .complement s else s), rest)

/-- Is the character part of the name of an edge of words? -/
def isEdgeChar (c : Char) : Bool := c.isAlpha || c = '-'

def readEdge (f : Flags) (cs : List Char) : Option (Escape × List Char) :=
  match cs with
  | ['{'] => none
  | '{' :: c :: rest =>
      if isEdgeChar c then do
        let name := String.ofList ((c :: rest).takeWhile isEdgeChar)
        let rest ← match (c :: rest).dropWhile isEdgeChar with
          | '}' :: rest => some rest
          | _ => none
        let look ← match name with
          | "start" => some (Look.wordStart (wordSet f))
          | "end" => some (Look.wordEnd (wordSet f))
          | "start-half" => some (Look.wordStartHalf (wordSet f))
          | "end-half" => some (Look.wordEndHalf (wordSet f))
          | _ => none
        return (.look look, rest)
      else some (.look (.wordEdge (wordSet f)), cs)
  | cs => some (.look (.wordEdge (wordSet f)), cs)

def readEscape (f : Flags) : List Char → Option (Escape × List Char)
  | [] => none
  | c :: rest =>
      if c.isDigit then none
      else if c = 'x' ∨ c = 'u' ∨ c = 'U' then readHex f c rest
      else if c = 'p' ∨ c = 'P' then readProperty f (c = 'P') rest
      else if c = 'b' then readEdge f rest
      else match letterSet? f c with
        | some (negated, s) => (signed f negated s).map fun s => (.set s, rest)
        | none =>
            if isEscapable c then some (.char c, rest)
            else match letterChar? c, letterLook? f c with
              | some c, _ => some (.char c, rest)
              | none, some l => some (.look l, rest)
              | none, none => none

/-! ## Classes in brackets -/

/-- The set and what differs from it only in case, if the flags say so. -/
def caseClosed (f : Flags) (s : Class) : Class :=
  if !f.caseless then s
  else if f.unicode then .caseless s
  else .inter (.caseless s) (.ranges [(0, 0x7F)])

inductive SetOp where
  | inter
  | diff
  | exclusive
  deriving DecidableEq, Repr

/-- The result of an operation, once both operands are complete. -/
def SetOp.apply (f : Flags) (op : SetOp) (a b : Class) : Class :=
  let a := caseClosed f a
  let b := caseClosed f b
  match op with
  | inter => .inter a b
  | diff => .diff a b
  | exclusive => .union (.diff a b) (.diff b a)

/-- The set so far, behind the operation that waits for it. -/
def closeOperand (f : Flags) (pending : Option (Class × SetOp)) (s : Class) : Class :=
  match pending with
  | none => s
  | some (left, op) => op.apply f left s

def readAsciiClass (f : Flags) (cs : List Char) : Option (Class × List Char) :=
  match cs with
  | ':' :: rest =>
      let (negated, rest) := match rest with
        | '^' :: rest => (true, rest)
        | rest => (false, rest)
      match rest.dropWhile (· != ':') with
      | ':' :: ']' :: tail => do
          let s ← Class.ofAsciiName? (String.ofList (rest.takeWhile (· != ':')))
          let outside := if f.unicode then .complement s else .diff (.ranges [(0, 0x7F)]) s
          return (if negated then outside else s, tail)
      | _ => none
  | _ => none

def readSetItem (f : Flags) : List Char → Option (Escape × List Char)
  | [] => none
  | '\\' :: rest => do
      let (e, rest) ← readEscape f rest
      match e with
      | .look _ => none
      | e => return (e, rest)
  | c :: rest => if !f.unicode ∧ 0x80 ≤ c.toNat then none else some (.char c, rest)

def readSetRange (f : Flags) (cs : List Char) : Option (Class × List Char) := do
  let (first, rest) ← readSetItem f cs
  let rest := behindBlanks f rest
  let alone : Option (Class × List Char) :=
    match first with
    | .char c => some (.single c, rest)
    | .set s => some (s, rest)
    | .look _ => none
  match rest with
  | [] => none
  | '-' :: more =>
      match behindBlanks f more with
      | ']' :: _ => alone
      | '-' :: _ => alone
      | more => do
          let (last, rest) ← readSetItem f more
          match first, last with
          | .char a, .char b =>
              if b < a then none else some (.ranges [(a.toNat, b.toNat)], rest)
          | _, _ => none
  | _ => alone

/-- Hyphens at the start of a class stand for themselves. -/
def leadingHyphens (f : Flags) : Nat → Class → List Char → Class × List Char
  | 0, s, cs => (s, cs)
  | fuel + 1, s, cs =>
      match behindBlanks f cs with
      | '-' :: rest => leadingHyphens f fuel (.union s (.single '-')) rest
      | cs => (s, cs)

/-- Reads the start of a class behind its bracket: is it negated, and what stands for itself only
there. -/
def openClass (f : Flags) (cs : List Char) : Bool × Class × List Char :=
  let cs := behindBlanks f cs
  let (negated, cs) := match cs with
    | '^' :: rest => (true, behindBlanks f rest)
    | cs => (false, cs)
  match cs with
  | ']' :: rest => (negated, .single ']', rest)
  | cs =>
      let (s, cs) := leadingHyphens f cs.length .empty cs
      (negated, s, cs)

def readClass (f : Flags) :
    Nat → Bool → Option (Class × SetOp) → Class → List Char → Option (Class × List Char)
  | 0, _, _, _, _ => none
  | fuel + 1, negated, pending, s, cs =>
      let operate (op : SetOp) (rest : List Char) :=
        readClass f fuel negated (some (closeOperand f pending s, op)) .empty rest
      match behindBlanks f cs with
      | [] => none
      | ']' :: rest => do
          let whole := caseClosed f (closeOperand f pending s)
          return (← signed f negated whole, rest)
      | '&' :: '&' :: rest => operate .inter rest
      | '-' :: '-' :: rest => operate .diff rest
      | '~' :: '~' :: rest => operate .exclusive rest
      | '[' :: rest =>
          match readAsciiClass f rest with
          | some (named, rest) => readClass f fuel negated pending (.union s named) rest
          | none => do
              let (innerNegated, start, rest) := openClass f rest
              let (inner, rest) ← readClass f fuel innerNegated none start rest
              readClass f fuel negated pending (.union s inner) rest
      | cs => do
          let (item, rest) ← readSetRange f cs
          readClass f fuel negated pending (.union s item) rest

/-! ## Repetition, groups, the whole -/

def readCount (cs : List Char) : Option (Nat × List Char) := do
  let cs := cs.dropWhile Text.isBlank
  let n ← Text.digits? 10 (cs.takeWhile Char.isDigit)
  if UInt32.size ≤ n then none
  return (n, (cs.dropWhile Char.isDigit).dropWhile Text.isBlank)

def readBounds (cs : List Char) : Option (Nat × Option Nat × List Char) := do
  let (least, rest) ← readCount cs
  match rest with
  | '}' :: rest => return (least, some least, rest)
  | ',' :: rest =>
      match rest.dropWhile Text.isBlank with
      | '}' :: rest => return (least, none, rest)
      | rest => do
          let (greatest, rest) ← readCount rest
          match rest with
          | '}' :: rest => if greatest < least then none else return (least, some greatest, rest)
          | _ => none
  | _ => none

/-- Drops the mark that prefers few repetitions. -/
def dropLazy (cs : List Char) : List Char :=
  match cs with
  | '?' :: rest => rest
  | cs => cs

/-- Reads flags up to a colon or a parenthesis, which is kept.  Each flag may stand there once. -/
def readFlags : Flags → Bool → Bool → List Char → List Char → Option (Flags × Bool × List Char)
  | _, _, _, _, [] => none
  | f, on, last, seen, c :: rest =>
      if c = ':' ∨ c = ')' then
        if last then none else some (f, seen.isEmpty && on, c :: rest)
      else if c = '-' then
        if on then readFlags f false true seen rest else none
      else if c ∈ seen then none
      else do readFlags (← f.turn on c) on false (c :: seen) rest

/-- May the character stand in the name of a group? -/
def isNameChar (first : Bool) (c : Char) : Bool :=
  c = '_' || Class.alphabetic.has c.toNat ||
    (!first && (c = '.' || c = '[' || c = ']' ||
      (Class.tables [.decimalDigit, .letterNumber, .otherNumber]).has c.toNat))

def readName (cs : List Char) : Option (String × List Char) :=
  let name := cs.takeWhile (· != '>')
  match name, cs.dropWhile (· != '>') with
  | c :: more, _ :: rest =>
      if isNameChar true c && more.all (isNameChar false) then some (String.ofList name, rest)
      else none
  | _, _ => none

def literal (f : Flags) (c : Char) : Expr := .one (caseClosed f (.single c))

def dot (f : Flags) : Option Expr :=
  if !f.unicode then none
  else if f.dotAll then some (.one .any)
  else if f.anyLineEnd then some (.one (.complement (.ranges [(0xA, 0xA), (0xD, 0xD)])))
  else some (.one (.complement (.single '\n')))

/-- The condition of the circumflex. -/
def startLook (f : Flags) : Look :=
  if !f.multiline then .textStart else if f.anyLineEnd then .anyLineStart else .lineStart

/-- The condition of the dollar. -/
def endLook (f : Flags) : Look :=
  if !f.multiline then .textEnd else if f.anyLineEnd then .anyLineEnd else .lineEnd

/-- What has been read of a group: the alternatives before the current one, and the parts of the
current one in reverse order; flags stand there as a part that cannot be repeated. -/
structure Progress where
  branches : List Expr
  parts : List (Option Expr)

namespace Progress

def start : Progress := ⟨[], []⟩

def push (p : Progress) (e : Expr) : Progress := { p with parts := some e :: p.parts }

def repeatLast (p : Progress) (g : Expr → Expr) : Option Progress :=
  match p.parts with
  | some e :: rest => some { p with parts := some (g e) :: rest }
  | _ => none

/-- The parts of the current alternative as one expression. -/
def branch (p : Progress) : Expr := .seq (p.parts.reverse.filterMap id)

def next (p : Progress) : Progress := ⟨p.branches ++ [p.branch], []⟩

def whole (p : Progress) : Expr := p.branches.foldr .alt p.branch

end Progress

/-- Reads a group up to its closing parenthesis, which is kept, or to the end of the text.  The
names of groups have to differ. -/
def readGroup : Nat → Flags → List String → Progress → List Char →
    Option (Expr × List String × List Char)
  | 0, _, _, _, _ => none
  | fuel + 1, f, names, p, cs =>
      let inner (g : Flags) (names : List String) (rest : List Char) :=
        match readGroup fuel g names .start rest with
        | some (e, names, ')' :: rest) => readGroup fuel f names (p.push e) rest
        | _ => none
      let again (p : Option Progress) (rest : List Char) :=
        match p with
        | some p => readGroup fuel f names p (dropLazy (behindBlanks f rest))
        | none => none
      match behindBlanks f cs with
      | [] => some (p.whole, names, [])
      | ')' :: rest => some (p.whole, names, ')' :: rest)
      | '|' :: rest => readGroup fuel f names p.next rest
      | '*' :: rest => again (p.repeatLast .star) rest
      | '+' :: rest => again (p.repeatLast .plus) rest
      | '?' :: rest => again (p.repeatLast .optional) rest
      | '{' :: rest =>
          match readBounds rest with
          | some (least, greatest, rest) =>
              again (p.repeatLast (·.repeated least greatest)) rest
          | none => none
      | '(' :: rest =>
          match behindBlanks f rest with
          | '?' :: '<' :: rest =>
              match readName rest with
              | some (name, rest) => if name ∈ names then none else inner f (name :: names) rest
              | none => none
          | '?' :: 'P' :: '<' :: rest =>
              match readName rest with
              | some (name, rest) => if name ∈ names then none else inner f (name :: names) rest
              | none => none
          | '?' :: rest =>
              match readFlags f true false [] rest with
              | some (g, _, ':' :: rest) => inner g names rest
              | some (g, bare, ')' :: rest) =>
                  if bare then none
                  else readGroup fuel g names { p with parts := none :: p.parts } rest
              | _ => none
          | rest => inner f names rest
      | '[' :: rest =>
          let (negated, start, rest) := openClass f rest
          match readClass f (rest.length + 1) negated none start rest with
          | some (s, rest) => readGroup fuel f names (p.push (.one s)) rest
          | none => none
      | '.' :: rest =>
          match dot f with
          | some e => readGroup fuel f names (p.push e) rest
          | none => none
      | '^' :: rest => readGroup fuel f names (p.push (.look (startLook f))) rest
      | '$' :: rest => readGroup fuel f names (p.push (.look (endLook f))) rest
      | '\\' :: rest =>
          match readEscape f rest with
          | some (.char c, rest) => readGroup fuel f names (p.push (literal f c)) rest
          | some (.set s, rest) => readGroup fuel f names (p.push (.one s)) rest
          | some (.look l, rest) => readGroup fuel f names (p.push (.look l)) rest
          | none => none
      | c :: rest => readGroup fuel f names (p.push (literal f c)) rest

def readExpr (text : String) : Option Expr :=
  let cs := text.toList
  match readGroup (2 * cs.length + 2) .initial [] .start cs with
  | some (e, _, []) => some e
  | _ => none

/-- The pattern that a text stands for, unless it is not well formed. -/
def ofText? (text : String) : Option Pattern := (readExpr text).map (⟨text, ·⟩)

def occursIn (p : Pattern) (text : String) : Bool := p.expr.occursIn text.toList

end Pattern
end LayoutAudit
