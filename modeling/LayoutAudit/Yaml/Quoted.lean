import LayoutAudit.Text.Character
import LayoutAudit.Yaml.Gap

/-!
# Yaml.Quoted — scalars in quotes

* `Quoted.read` — reads a scalar behind its first quote.
-/

namespace LayoutAudit
namespace Yaml
namespace Quoted

def simpleEscape? : Char → Option Char
  | '0' => some '\x00'
  | 'a' => some '\x07'
  | 'b' => some '\x08'
  | 't' => some '\t'
  | '\t' => some '\t'
  | 'n' => some '\n'
  | 'v' => some '\x0b'
  | 'f' => some '\x0c'
  | 'r' => some '\r'
  | 'e' => some '\x1b'
  | ' ' => some ' '
  | '"' => some '"'
  | '/' => some '/'
  | '\\' => some '\\'
  | 'N' => some '\u0085'
  | '_' => some '\u00a0'
  | 'L' => some '\u2028'
  | 'P' => some '\u2029'
  | _ => none

def codeLength? : Char → Option Nat
  | 'x' => some 2
  | 'u' => some 4
  | 'U' => some 8
  | _ => none

/-- The character of an escape behind its backslash, with the length of the escape. -/
def escape? : List Char → Option (Char × Nat)
  | [] => none
  | e :: rest =>
      match simpleEscape? e with
      | some ch => some (ch, 1)
      | none => do
          let n ← codeLength? e
          let digits := rest.take n
          if digits.length < n then none
          let code ← Text.digits? 16 digits
          if code.isValidChar then some (Char.ofNat code, n + 1) else none

/-- Reads a word; gives its characters in reverse order, and the gap that an escaped break leaves
behind it. -/
def word (single : Bool) : Nat → List Char → Cursor → Option (List Char × Gap × Cursor)
  | 0, acc, c => some (acc, .none, c)
  | fuel + 1, acc, c =>
      match c.rest with
      | [] => some (acc, .none, c)
      | ch :: rest =>
          if isBlank ch || isBreak ch then some (acc, .none, c)
          else if single then
            if ch = '\'' then
              match rest with
              | '\'' :: _ => word single fuel ('\'' :: acc) (c.skip 2)
              | _ => some (acc, .none, c)
            else word single fuel (ch :: acc) (c.skip 1)
          else if ch = '"' then some (acc, .none, c)
          else if ch = '\\' then
            match rest.head? with
            | none => none
            | some e =>
                if isBreak e then some (acc, .escaped, (c.skip 1).skipBreak.2)
                else
                  match escape? rest with
                  | some (ch, n) => word single fuel (ch :: acc) (c.skip (n + 1))
                  | none => none
          else word single fuel (ch :: acc) (c.skip 1)

def words (single : Bool) : Nat → List Char → Cursor → Option (List Char × Cursor)
  | 0, _, _ => none
  | fuel + 1, acc, c =>
      if c.atDocumentMark || c.rest.isEmpty then none
      else
        match word single (c.rest.length + 1) acc c with
        | none => none
        | some (acc, gap, c) =>
            if c.at? (if single then '\'' else '"') then some (acc, c.skip 1)
            else
              match Gap.read (-1) (c.rest.length + 1) gap c with
              | none => none
              | some (gap, c) => words single fuel (gap.text.reverse ++ acc) c

def read (single : Bool) (c : Cursor) : Option (String × Cursor) := do
  let (text, c) ← words single (c.rest.length + 2) [] c
  return (String.ofList text.reverse, c)

end Quoted
end Yaml
end LayoutAudit
