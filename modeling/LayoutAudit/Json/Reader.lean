import LayoutAudit.Json.Numeral

/-!
# Json.Reader — from text to nodes

The whole text is read at once; where it breaks off or leaves the grammar, the tree holds a fault.

* `Json.Document` — the tree of a text and the fault behind it;
* `Json.Document.read` — reading a text;
* `Json.Document.decode` — a decoder applied to it;
* `Json.Value.read` — a text as plain data.
-/

namespace LayoutAudit
namespace Json

open Wire (Fault Node Reading)

def isBlank (c : Char) : Bool := c = ' ' || c = '\n' || c = '\t' || c = '\r'

/-- Containers nested deeper than this are not read. -/
def depthLimit : Nat := 127

namespace Quoted

/-- What has been read of a quoted text: the characters in reverse order, and whether all escapes
so far stand for characters. -/
structure Progress where
  reversed : List Char
  sound : Bool

/-- The node of a text that breaks off or leaves the grammar. -/
def stop (p : Progress) (f : Fault) : Node × Option (List Char) :=
  (.fault (if p.sound then f else .malformed) f, none)

def codeUnit (cs : List Char) : Except Fault (Nat × List Char) :=
  match cs with
  | a :: b :: c :: d :: rest =>
      match Text.digits? 16 [a, b, c, d] with
      | some n => .ok (n, rest)
      | none => .error .malformed
  | _ =>
      if (String.ofList cs).utf8ByteSize < 4 then .error .truncated else .error .malformed

def simpleEscape? : Char → Option Char
  | '"' => some '"'
  | '\\' => some '\\'
  | '/' => some '/'
  | 'b' => some '\x08'
  | 'f' => some '\x0c'
  | 'n' => some '\n'
  | 'r' => some '\r'
  | 't' => some '\t'
  | _ => none

def read : Nat → Progress → List Char → Node × Option (List Char)
  | 0, p, _ => stop p .truncated
  | _ + 1, p, [] => stop p .truncated
  | fuel + 1, p, c :: rest =>
      if c = '"' then
        (if p.sound then .string (String.ofList p.reversed.reverse) else .void, some rest)
      else if c = '\\' then
        match rest with
        | [] => stop p .truncated
        | 'u' :: rest =>
            match codeUnit rest with
            | .error f => stop p f
            | .ok (n, rest) =>
                if n < 0xD800 ∨ 0xDFFF < n then
                  read fuel ⟨Char.ofNat n :: p.reversed, p.sound⟩ rest
                else if 0xDC00 ≤ n then read fuel ⟨p.reversed, false⟩ rest
                else
                  match rest with
                  | [] => stop p .truncated
                  | ['\\'] => stop p .truncated
                  | '\\' :: 'u' :: more =>
                      match codeUnit more with
                      | .error f => stop p f
                      | .ok (low, more) =>
                          if 0xDC00 ≤ low ∧ low ≤ 0xDFFF then
                            let c := Char.ofNat (0x10000 + (n - 0xD800) * 0x400 + (low - 0xDC00))
                            read fuel ⟨c :: p.reversed, p.sound⟩ more
                          else read fuel ⟨p.reversed, false⟩ more
                  | _ => read fuel ⟨p.reversed, false⟩ rest
        | e :: rest =>
            match simpleEscape? e with
            | some c => read fuel ⟨c :: p.reversed, p.sound⟩ rest
            | none => stop p .malformed
      else if c.toNat < 32 then stop p .malformed
      else read fuel ⟨c :: p.reversed, p.sound⟩ rest

end Quoted

def readWord (node : Node) : List Char → List Char → Node × Option (List Char)
  | [], cs => (node, some cs)
  | _ :: _, [] => (.fault .truncated .truncated, none)
  | w :: word, c :: cs =>
      if w = c then readWord node word cs else (.fault .malformed .malformed, none)

def readText (cs : List Char) : Node × Option (List Char) :=
  Quoted.read (cs.length + 1) ⟨[], true⟩ cs

/-- What follows a part of a container: what has been read, the fault that ends it, the rest. -/
abbrev Parts (α : Type) := List α × Option Fault × Option (List Char)

mutual
/-- Reads a value with `depth` more levels allowed. -/
def readValue : Nat → Nat → List Char → Node × Option (List Char)
  | 0, _, _ => (.fault .truncated .truncated, none)
  | fuel + 1, depth, cs =>
      match cs.dropWhile isBlank with
      | [] => (.fault .truncated .truncated, none)
      | 'n' :: cs => readWord .null ['u', 'l', 'l'] cs
      | 't' :: cs => readWord (.bool true) ['r', 'u', 'e'] cs
      | 'f' :: cs => readWord (.bool false) ['a', 'l', 's', 'e'] cs
      | '"' :: cs => readText cs
      | '-' :: cs => Numeral.read true cs
      | '[' :: cs =>
          let (items, broken, rest) := readItems fuel (depth - 1) true cs
          (if depth = 0 then .buried (.array items broken) else .array items broken, rest)
      | '{' :: cs =>
          let (members, broken, rest) := readMembers fuel (depth - 1) true cs
          (if depth = 0 then .buried (.object members broken) else .object members broken, rest)
      | c :: cs =>
          if c.isDigit then Numeral.read false (c :: cs) else (.fault .malformed .malformed, none)

def readItems : Nat → Nat → Bool → List Char → Parts Node
  | 0, _, _, _ => ([], some .truncated, none)
  | fuel + 1, depth, first, cs =>
      match cs.dropWhile isBlank with
      | [] => ([], some .truncated, none)
      | c :: rest =>
          if c = ']' then ([], none, some rest)
          else if first then readItem fuel depth (c :: rest)
          else if c = ',' then
            match rest.dropWhile isBlank with
            | ']' :: _ => ([.fault .malformed .malformed], none, none)
            | rest => readItem fuel depth rest
          else ([], some .malformed, none)

def readItem : Nat → Nat → List Char → Parts Node
  | 0, _, _ => ([], some .truncated, none)
  | fuel + 1, depth, cs =>
      match readValue fuel depth cs with
      | (node, none) => ([node], none, none)
      | (node, some rest) =>
          let (items, broken, rest) := readItems fuel depth false rest
          (node :: items, broken, rest)

def readMembers : Nat → Nat → Bool → List Char → Parts (Node × Node)
  | 0, _, _, _ => ([], some .truncated, none)
  | fuel + 1, depth, first, cs =>
      match cs.dropWhile isBlank with
      | [] => ([], some .truncated, none)
      | c :: rest =>
          if c = '}' then ([], none, some rest)
          else if first then readMember fuel depth (c :: rest)
          else if c = ',' then readMember fuel depth (rest.dropWhile isBlank)
          else ([], some .malformed, none)

def readMember : Nat → Nat → List Char → Parts (Node × Node)
  | 0, _, _ => ([], some .truncated, none)
  | fuel + 1, depth, cs =>
      match cs with
      | [] => ([], some .truncated, none)
      | '"' :: cs =>
          match readText cs with
          | (key, none) => ([(key, .null)], none, none)
          | (key, some rest) =>
              match rest.dropWhile isBlank with
              | [] => ([(key, .fault .truncated .truncated)], none, none)
              | ':' :: rest =>
                  match readValue fuel depth rest with
                  | (node, none) => ([(key, node)], none, none)
                  | (node, some rest) =>
                      let (members, broken, rest) := readMembers fuel depth false rest
                      ((key, node) :: members, broken, rest)
              | _ => ([(key, .fault .malformed .malformed)], none, none)
      | _ => ([], some .malformed, none)
end

/-- A text as a tree, with the fault behind the value. -/
structure Document where
  root : Node
  trailing : Option Fault

namespace Document

def read (text : String) : Document :=
  let cs := text.toList
  match readValue (3 * cs.length + 3) depthLimit cs with
  | (node, none) => ⟨node, none⟩
  | (node, some rest) => ⟨node, if (rest.dropWhile isBlank).isEmpty then none else some .malformed⟩

def decode {α : Type} (d : Document) (decoder : Node → Reading α) : Reading α := do
  let a ← decoder d.root
  Node.finish d.trailing
  return a

end Document

def Value.read (text : String) : Reading Value := (Document.read text).decode Node.toValue

end Json
end LayoutAudit
