import LayoutAudit.Proofs.Json.Layout

/-!
# Proofs.Json.Lines — a value on one line

The text of a value that is not spread over lines holds no line break, whatever its texts hold, and
no other control character either.

* `Json.Unbroken` — characters of which none is a control character;
* `Decimal.Style.unbroken_write` — nor do numbers have any;
* `Json.Value.unbroken_compact` — the text of a value;
* `Json.splitOn_lines` — texts with line breaks behind them are the lines of what they add up to.
-/

namespace LayoutAudit

/-- No control character, and so no line break. -/
def Json.Unbroken (cs : List Char) : Prop := ∀ c ∈ cs, 32 ≤ c.toNat

namespace Json.Unbroken

variable {cs ds : List Char} {c : Char}

theorem nil : Unbroken [] := by simp [Unbroken]

theorem cons (hc : 32 ≤ c.toNat) (h : Unbroken cs) : Unbroken (c :: cs) :=
  List.forall_mem_cons.2 ⟨hc, h⟩

theorem append (h : Unbroken cs) (h' : Unbroken ds) : Unbroken (cs ++ ds) :=
  List.forall_mem_append.2 ⟨h, h'⟩

theorem of_all (h : cs.all (fun c => decide (32 ≤ c.toNat)) = true) : Unbroken cs := by
  intro c hc
  exact of_decide_eq_true (List.all_eq_true.1 h c hc)

theorem newline_not_mem (h : Unbroken cs) : '\n' ∉ cs := by
  intro hmem
  have hbreak := h '\n' hmem
  revert hbreak
  decide

theorem of_isDigit (h : ∀ c ∈ cs, c.isDigit = true) : Unbroken cs := by
  intro c hc
  have hdigit := h c hc
  simp only [Char.isDigit, Bool.and_eq_true, decide_eq_true_eq] at hdigit
  have hleast : '0'.toNat ≤ c.toNat := hdigit.1
  exact le_trans (by decide) hleast

theorem toDigits (n : Nat) : Unbroken (Nat.toDigits 10 n) :=
  of_isDigit fun _ hc => Nat.isDigit_of_mem_toDigits (by decide) (by decide) hc

end Json.Unbroken

open Json (Unbroken)

/-! ## Numbers -/

namespace Decimal

theorem Digits.unbroken_chars (d : Digits) : Unbroken d.chars := .toDigits d.digits

namespace Style

variable (s : Style) (d : Digits)

theorem unbroken_zeros (n : Nat) : Unbroken (List.replicate n '0') := by
  intro c hc
  rw [List.eq_of_mem_replicate hc]
  decide

theorem unbroken_positionally : Unbroken (s.positionally d) := by
  have hchars := d.unbroken_chars
  unfold positionally
  split
  · refine (hchars.append (unbroken_zeros _)).append ?_
    split
    · exact .cons (by decide) (.cons (by decide) .nil)
    · exact .nil
  · split
    · -- The point stands between the digits, or in front of zeros and the digits.
      refine Unbroken.append ?_ (.cons (by decide) ?_)
      · exact fun c hc => hchars c (List.mem_of_mem_take hc)
      · exact fun c hc => hchars c (List.mem_of_mem_drop hc)
    · exact .cons (by decide) (.cons (by decide) ((unbroken_zeros _).append hchars))

theorem unbroken_scientifically : Unbroken (scientifically d) := by
  have hchars := d.unbroken_chars
  unfold scientifically
  refine Unbroken.append ?_ (.cons (by decide) (.cons ?_ (.toDigits _)))
  · split
    · exact .nil
    · rename_i c hsingle
      exact hsingle ▸ hchars
    · rename_i c rest hmore hsplit
      rw [hsplit] at hchars
      have hboth := List.forall_mem_cons.1 hchars
      exact .cons hboth.1 (.cons (by decide) hboth.2)
  · split
    · decide
    · decide

theorem unbroken_write (x : Float) : Unbroken (s.write x).toList := by
  have hlayOut (d : Digits) : Unbroken (s.layOut d) := by
    unfold layOut
    split
    · exact s.unbroken_positionally d
    · split
      · exact s.unbroken_positionally d
      · exact unbroken_scientifically d
  unfold write
  split
  · exact .of_all rfl
  · rename_i negative hinfinite
    cases negative with
    | true => exact .of_all rfl
    | false => exact .of_all rfl
  · rename_i negative significand exponent hfinite
    have hbody : Unbroken (if significand = 0 then s.positionally ⟨0, 0⟩
        else s.layOut ((Cell.of significand exponent).shortest s.tie)) := by
      split
      · exact s.unbroken_positionally _
      · exact hlayOut _
    rw [String.toList_ofList]
    split
    · exact .cons (by decide) hbody
    · exact hbody

end Style
end Decimal

namespace Json

theorem Number.unbroken_write (n : Number) : Unbroken n.write.toList := by
  cases n with
  | integer i =>
      cases i with
      | ofNat n =>
          have htext : (toString (Int.ofNat n)).toList = Nat.toDigits 10 n := Nat.toList_repr
          exact htext ▸ .toDigits n
      | negSucc n =>
          have htext : (toString (Int.negSucc n)).toList = '-' :: Nat.toDigits 10 (n + 1) := by
            simp [Int.toString_eq_repr, Int.repr]
          exact htext ▸ .cons (by decide) (.toDigits (n + 1))
  | real x =>
      rw [Number.write]
      split
      · exact Decimal.Style.wire.unbroken_write x
      · exact .of_all rfl

/-! ## Values -/

theorem unbroken_escapeChar (c : Char) : Unbroken (escapeChar c) := by
  have hcontrol (n : Nat) (hn : n < 32) : Unbroken ('\\' :: 'u' :: '0' :: '0' ::
      (if n < 16 then '0' :: Nat.toDigits 16 n else Nat.toDigits 16 n)) := by
    apply Unbroken.of_all
    interval_cases n <;> rfl
  unfold escapeChar
  -- Seven characters have an escape of one letter, and the other control characters one in digits.
  iterate 7
    split
    · exact .cons (by decide) (.cons (by decide) .nil)
  split
  · rename_i hsmall
    exact hcontrol c.toNat hsmall
  · rename_i hlarge
    exact .cons (by omega) .nil

theorem unbroken_escaped (s : String) : Unbroken (s.toList.flatMap escapeChar) := by
  intro c hc
  rcases List.mem_flatMap.1 hc with ⟨d, hd, hc⟩
  exact unbroken_escapeChar d c hc

namespace Layout

theorem unbroken_comma (first : Bool) : Unbroken (comma first) := by
  cases first with
  | true => exact .nil
  | false => exact .cons (by decide) .nil

mutual
theorem unbroken_text (depth : Nat) : (v : Value) → Unbroken (oneLine.text depth v)
  | .null => by
      unfold text
      exact .of_all rfl
  | .bool b => by
      unfold text
      cases b with
      | true => exact .of_all rfl
      | false => exact .of_all rfl
  | .number n => by
      unfold text
      exact n.unbroken_write
  | .string s => by
      unfold text
      exact .cons (by decide) ((unbroken_escaped s).append (.cons (by decide) .nil))
  | .array vs => by
      have hclosing : oneLine.closing depth vs = [] := ite_self _
      rw [text, hclosing]
      exact .cons (by decide) ((unbroken_items (depth + 1) true vs).append
        (.cons (by decide) .nil))
  | .object ms => by
      have hclosing : oneLine.closing depth ms = [] := ite_self _
      rw [text, hclosing]
      exact .cons (by decide) ((unbroken_members (depth + 1) true ms).append
        (.cons (by decide) .nil))

theorem unbroken_items (depth : Nat) (first : Bool) :
    (vs : List Value) → Unbroken (oneLine.items depth first vs)
  | [] => .nil
  | v :: rest => by
      rw [items]
      exact (unbroken_comma first).append
        ((unbroken_text depth v).append (unbroken_items depth false rest))

theorem unbroken_members (depth : Nat) (first : Bool) :
    (ms : List (String × Value)) → Unbroken (oneLine.members depth first ms)
  | [] => .nil
  | (k, v) :: rest => by
      rw [members]
      refine (unbroken_comma first).append (.cons (by decide) ((unbroken_escaped k).append ?_))
      exact .cons (by decide) (.cons (by decide)
        ((unbroken_text depth v).append (unbroken_members depth false rest)))
end

end Layout

theorem Value.unbroken_compact (v : Value) : Unbroken v.compact.toList := by
  rw [← Layout.text_oneLine 0]
  exact Layout.unbroken_text 0 v

/-! ## Lines -/

/-- Behind the last line break nothing is left. -/
theorem splitOn_lines {lines : List (List Char)} (h : ∀ line ∈ lines, '\n' ∉ line) :
    (lines.flatMap (· ++ ['\n'])).splitOn '\n' = lines ++ [[]] := by
  induction lines with
  | nil => rfl
  | cons line rest ih =>
      have hline : ∀ c ∈ line, (c == '\n') = false := by
        intro c hc
        rw [beq_eq_false_iff_ne]
        rintro rfl
        exact h line List.mem_cons_self hc
      calc
        ((line :: rest).flatMap (· ++ ['\n'])).splitOn '\n'
            = (line ++ '\n' :: rest.flatMap (· ++ ['\n'])).splitOn '\n' := by simp
        _ = line :: (rest.flatMap (· ++ ['\n'])).splitOn '\n' :=
            List.splitOnP_append_cons_of_forall_mem hline '\n' rfl _
        _ = line :: rest ++ [[]] := by
            rw [ih fun other hother => h other (List.mem_cons_of_mem line hother)]
            rfl

end Json
end LayoutAudit
