import LayoutAudit.Text.Character
import LayoutAudit.Text.Property.Numeral
import LayoutAudit.Viewport.Size

/-!
# Viewport.Token — viewports given on the spot

A token `name=WIDTHxHEIGHT` stands for a viewport that no catalog holds.

* `TokenFault`, `TokenError` — what can be wrong with a token;
* `Viewport.ofToken` — reads such a token.
-/

namespace LayoutAudit

/-- What can be wrong with a token, or with the name of a group. -/
inductive TokenFault where
  | empty
  | malformed
  | outOfRange (digits : String)
  | notPositive
  | unknown
  | unknownMember (name : String)
  deriving DecidableEq, Repr

def TokenFault.reason : TokenFault → String
  | empty => "empty token"
  | malformed => "expected name=WIDTHxHEIGHT"
  | outOfRange digits => "'" ++ digits ++ "' is out of range"
  | notPositive => "dimensions must be positive"
  | unknown => "not a preset or group"
  | unknownMember name => "group member '" ++ name ++ "' is not a preset"

structure TokenError where
  token : String
  fault : TokenFault
  deriving DecidableEq, Repr

def TokenError.message (e : TokenError) : String :=
  "Invalid viewport token '" ++ e.token ++ "': " ++ e.fault.reason

namespace Viewport

def isNameChar (c : Char) : Bool := c.isAlphanum || c = '_' || c = '.' || c = '-'

/-- The digits of all scripts belong to the form of a token, even where they have no value. -/
def isDimensionChar (c : Char) : Bool := Text.Property.decimalDigit.has c.toNat

/-- The parts of a token of the form `name=WIDTHxHEIGHT`. -/
def parts? (cs : List Char) : Option (List Char × List Char × List Char) :=
  match cs.dropWhile (· ≠ '=') with
  | '=' :: rest =>
      let name := cs.takeWhile (· ≠ '=')
      let width := rest.takeWhile isDimensionChar
      match rest.dropWhile isDimensionChar with
      | 'x' :: height =>
          if name.isEmpty || width.isEmpty || height.isEmpty then none
          else if name.all isNameChar && height.all isDimensionChar then
            some (name, width, height)
          else none
      | _ => none
  | _ => none

def dimension (cs : List Char) : Except TokenFault Nat :=
  match (Text.digits? 10 cs).filter (· < sizeBound) with
  | none => .error (.outOfRange (String.ofList cs))
  | some 0 => .error .notPositive
  | some n => .ok n

def ofToken (token : String) : Except TokenFault Viewport :=
  match parts? token.toList with
  | none => .error .malformed
  | some (name, width, height) => do
      return ⟨String.ofList name, ← dimension width, ← dimension height⟩

end Viewport
end LayoutAudit
