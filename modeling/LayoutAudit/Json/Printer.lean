import LayoutAudit.Decimal.Style
import LayoutAudit.Json.Value

/-!
# Json.Printer — JSON text

Two layouts of one value: `Value.compact` on one line, and `Value.pretty` with one member or item
on a line and two blanks of indentation per level.
-/

namespace LayoutAudit
namespace Json

/-- The escaped form of a character inside quotes.  Control characters are escaped, so a quoted
text never holds a line break. -/
def escapeChar (c : Char) : List Char :=
  if c = '"' then ['\\', '"']
  else if c = '\\' then ['\\', '\\']
  else if c = '\x08' then ['\\', 'b']
  else if c = '\x0c' then ['\\', 'f']
  else if c = '\n' then ['\\', 'n']
  else if c = '\r' then ['\\', 'r']
  else if c = '\t' then ['\\', 't']
  else if c.toNat < 32 then
    '\\' :: 'u' :: '0' :: '0' :: (if c.toNat < 16 then '0' :: Nat.toDigits 16 c.toNat
      else Nat.toDigits 16 c.toNat)
  else [c]

def quote (s : String) : String :=
  String.ofList ('"' :: (s.toList.flatMap escapeChar ++ ['"']))

/-- The text of a number; what is not finite is `null`. -/
def Number.write : Number → String
  | .integer i => toString i
  | .real x => if x.isFinite then Decimal.Style.wire.write x else "null"

namespace Value

mutual
/-- The text of a value on one line. -/
def compact : Value → String
  | .null => "null"
  | .bool b => if b then "true" else "false"
  | .number n => n.write
  | .string s => quote s
  | .array items => "[" ++ ",".intercalate (compactItems items) ++ "]"
  | .object members => "\x7b" ++ ",".intercalate (compactMembers members) ++ "\x7d"

def compactItems : List Value → List String
  | [] => []
  | v :: rest => compact v :: compactItems rest

def compactMembers : List (String × Value) → List String
  | [] => []
  | (k, v) :: rest => (quote k ++ ":" ++ compact v) :: compactMembers rest
end

/-- The line break before something at nesting depth `depth`. -/
def lineBreak (depth : Nat) : String := String.ofList ('\n' :: List.replicate (2 * depth) ' ')

mutual
/-- The text of a value, spread over lines, at nesting depth `depth`. -/
def prettyAt (depth : Nat) : Value → String
  | .array (v :: rest) =>
      "[" ++ ",".intercalate (prettyItems (depth + 1) (v :: rest)) ++ lineBreak depth ++ "]"
  | .object (m :: rest) =>
      "\x7b" ++ ",".intercalate (prettyMembers (depth + 1) (m :: rest)) ++ lineBreak depth ++ "\x7d"
  | v => compact v

def prettyItems (depth : Nat) : List Value → List String
  | [] => []
  | v :: rest => (lineBreak depth ++ prettyAt depth v) :: prettyItems depth rest

def prettyMembers (depth : Nat) : List (String × Value) → List String
  | [] => []
  | (k, v) :: rest =>
      (lineBreak depth ++ quote k ++ ": " ++ prettyAt depth v) :: prettyMembers depth rest
end

def pretty (v : Value) : String := prettyAt 0 v

end Value
end Json
end LayoutAudit
