/-!
# Text.Character — classes of characters, and digits

A set of code points is a list of inclusive ranges in rising order.

* `Text.Ranges`, `Ranges.has` — the sets;
* `Text.isBlank`, `Text.trim` — the characters with the property White_Space, and trimming by them;
* `Text.isBlank_of_isWhitespace` — they contain the ASCII blanks;
* `Text.digit?`, `Text.digits?` — the value of a digit and of a run of digits.
-/

namespace LayoutAudit
namespace Text

/-- Inclusive ranges of code points. -/
abbrev Ranges := List (Nat × Nat)

def Ranges.has (r : Ranges) (n : Nat) : Bool := r.any fun p => p.1 ≤ n && n ≤ p.2

/-! ## White space -/

def blanks : Ranges :=
  [(0x9, 0xD), (0x20, 0x20), (0x85, 0x85), (0xA0, 0xA0), (0x1680, 0x1680), (0x2000, 0x200A),
   (0x2028, 0x2029), (0x202F, 0x202F), (0x205F, 0x205F), (0x3000, 0x3000)]

def isBlank (c : Char) : Bool := blanks.has c.toNat

theorem isBlank_of_isWhitespace {c : Char} (h : c.isWhitespace = true) : isBlank c = true := by
  simp only [Char.isWhitespace, Bool.or_eq_true, decide_eq_true_eq] at h
  rcases h with ((h | h) | h) | h <;> subst h <;> decide

def trimBy (p : Char → Bool) (cs : List Char) : List Char :=
  ((cs.dropWhile p).reverse.dropWhile p).reverse

def trim (s : String) : String := String.ofList (trimBy isBlank s.toList)

/-! ## Digits -/

/-- The value of a digit in a base up to sixteen. -/
def digit? (base : Nat) (c : Char) : Option Nat :=
  let value :=
    if c.isDigit then some (c.toNat - '0'.toNat)
    else if 'a' ≤ c ∧ c ≤ 'f' then some (c.toNat - 'a'.toNat + 10)
    else if 'A' ≤ c ∧ c ≤ 'F' then some (c.toNat - 'A'.toNat + 10)
    else none
  value.filter (· < base)

/-- The value of a nonempty run of digits. -/
def digits? (base : Nat) : List Char → Option Nat
  | [] => none
  | cs => cs.foldlM (fun n c => (digit? base c).map (n * base + ·)) 0

end Text
end LayoutAudit
