import Mathlib.Tactic.IntervalCases
import Mathlib.Tactic.SplitIfs
import LayoutAudit.Json.Printer
import LayoutAudit.Json.Reader

/-!
# Proofs.Json.Tokens — printed tokens are read back

The reader takes one character after the other and has no tokens, so that what a token is read as
could depend on what comes behind it.  It does not: a quoted text ends with its own quote, and a
number ends where a character comes that no number holds.

* `readText_escaped` — a quoted text is read as that text;
* `Follows` — what may come behind a number;
* `Number.ReadsBack` — a number whose text is read as that number;
* `Numeral.read_append` — reading a number, whatever comes behind it;
* `Number.readsBack_integer` — integers that are machine words are read back.
-/

namespace LayoutAudit
namespace Json

/-! ## Quoted texts -/

namespace Quoted

/-- The four digits that a control character is escaped as are those of its code unit. -/
theorem codeUnit_control {n : Nat} (hn : n < 32) (rest : List Char) :
    codeUnit ('0' :: '0' :: (if n < 16 then '0' :: Nat.toDigits 16 n else Nat.toDigits 16 n) ++
      rest) = .ok (n, rest) := by
  interval_cases n <;> rfl

theorem read_escapeChar (c : Char) (fuel : Nat) (reversed cs : List Char) :
    read (fuel + 1) ⟨reversed, true⟩ (escapeChar c ++ cs) = read fuel ⟨c :: reversed, true⟩ cs := by
  -- Some characters have an escape of one letter.
  by_cases hquote : c = '"'
  · subst hquote
    rfl
  by_cases hslash : c = '\\'
  · subst hslash
    rfl
  by_cases hback : c = '\x08'
  · subst hback
    rfl
  by_cases hfeed : c = '\x0c'
  · subst hfeed
    rfl
  by_cases hline : c = '\n'
  · subst hline
    rfl
  by_cases hreturn : c = '\r'
  · subst hreturn
    rfl
  by_cases htab : c = '\t'
  · subst htab
    rfl
  by_cases hcontrol : c.toNat < 32
  · have hunit := codeUnit_control hcontrol cs
    have hsmall : c.toNat < 0xD800 := hcontrol.trans (by decide)
    simp only [escapeChar, hquote, hslash, hback, hfeed, hline, hreturn, htab, hcontrol, if_true,
      if_false, List.cons_append] at hunit ⊢
    simp only [read, hunit]
    simp [hsmall]
  · simp only [escapeChar, hquote, hslash, hback, hfeed, hline, hreturn, htab, hcontrol, if_false,
      List.cons_append, List.nil_append]
    simp only [read, hquote, hslash, hcontrol, if_false]

theorem read_escaped (s rest : List Char) {fuel : Nat} (hfuel : s.length < fuel)
    (reversed : List Char) :
    read fuel ⟨reversed, true⟩ (s.flatMap escapeChar ++ '"' :: rest) =
      (.string (String.ofList (reversed.reverse ++ s)), some rest) := by
  induction s generalizing fuel reversed with
  | nil =>
      rcases Nat.exists_eq_add_of_lt hfuel with ⟨more, rfl⟩
      simp [read]
  | cons c s ih =>
      rcases Nat.exists_eq_add_of_lt hfuel with ⟨more, rfl⟩
      have hrest : s.length < (c :: s).length + more := by
        rw [List.length_cons]
        omega
      rw [List.flatMap_cons, List.append_assoc, read_escapeChar, ih hrest]
      simp

end Quoted

theorem length_le_length_escaped (s : List Char) : s.length ≤ (s.flatMap escapeChar).length := by
  have hchar (c : Char) : 1 ≤ (escapeChar c).length := by
    unfold escapeChar
    repeat' split
    all_goals simp
  induction s with
  | nil => exact Nat.zero_le _
  | cons c s ih =>
      have hfirst := hchar c
      rw [List.flatMap_cons, List.length_append, List.length_cons]
      omega

/-- A quoted text is read as that text, and its end is where its last quote is. -/
theorem readText_escaped (s : String) (rest : List Char) :
    readText (s.toList.flatMap escapeChar ++ '"' :: rest) = (.string s, some rest) := by
  have hlength := length_le_length_escaped s.toList
  have hfuel : s.toList.length < (s.toList.flatMap escapeChar ++ '"' :: rest).length + 1 := by
    rw [List.length_append]
    omega
  rw [readText, Quoted.read_escaped s.toList rest hfuel]
  simp

/-! ## Numbers -/

/-- What may come behind a number: nothing that could belong to it. -/
def Follows (rest : List Char) : Prop :=
  ∀ c ∈ rest.head?, c.isDigit = false ∧ c ≠ '.' ∧ c ≠ 'e' ∧ c ≠ 'E'

namespace Numeral

open Wire (Node)

variable {negative : Bool} {significand : Nat} {exponent : Int} {n : Number} {rest : List Char}

theorem takeWhile_append (cs : List Char) (h : Follows rest) :
    (cs ++ rest).takeWhile Char.isDigit = cs.takeWhile Char.isDigit ∧
      (cs ++ rest).dropWhile Char.isDigit = cs.dropWhile Char.isDigit ++ rest := by
  induction cs with
  | nil =>
      cases rest with
      | nil => exact ⟨rfl, rfl⟩
      | cons c rest =>
          have hc : c.isDigit = false := (h c rfl).1
          simp [hc]
  | cons c cs ih => cases hc : c.isDigit <;> simp [hc, ih]

def readPower (negative : Bool) (significand : Nat) (exponent : Int) (down : Bool)
    (cs : List Char) : Node × Option (List Char) :=
  let digits := cs.takeWhile Char.isDigit
  let rest := cs.dropWhile Char.isDigit
  match digits, rest with
  | [], [] => cut
  | [], _ :: _ => bad
  | _ :: _, _ =>
      let n := digits.foldl (fun n c => n * 10 + digitValue c) 0
      if n < UInt32.size / 2 then
        (real negative significand (if down then exponent - n else exponent + n), some rest)
      else if significand = 0 || down then (.number (.real (signed negative 0.0)), some rest)
      else (.void, some rest)

theorem readPower_append {cs : List Char} {down : Bool} (hrest : Follows rest)
    (h : readPower negative significand exponent down cs = (.number n, some [])) :
    readPower negative significand exponent down (cs ++ rest) = (.number n, some rest) := by
  unfold readPower at h ⊢
  rw [(takeWhile_append cs hrest).1, (takeWhile_append cs hrest).2]
  cases hdigits : cs.takeWhile Char.isDigit with
  | nil =>
      rw [hdigits] at h
      cases hleft : cs.dropWhile Char.isDigit <;> simp [hleft, cut, bad] at h
  | cons d ds =>
      rw [hdigits] at h
      simp only at h ⊢
      split_ifs at h ⊢ <;> simp_all

theorem readExponent_cons (c : Char) (cs : List Char) :
    readExponent negative significand exponent (c :: cs) =
      if c = '+' then readPower negative significand exponent false cs
      else if c = '-' then readPower negative significand exponent true cs
      else readPower negative significand exponent false (c :: cs) := by
  by_cases hplus : c = '+'
  · subst hplus
    rfl
  by_cases hminus : c = '-'
  · subst hminus
    rfl
  rw [if_neg hplus, if_neg hminus]
  unfold readExponent
  split
  rename_i down left hsign
  have hparts : down = false ∧ c :: cs = left := by simpa [hplus, hminus, eq_comm] using hsign
  rcases hparts with ⟨rfl, rfl⟩
  rfl

theorem readExponent_append {cs : List Char} (hrest : Follows rest)
    (h : readExponent negative significand exponent cs = (.number n, some [])) :
    readExponent negative significand exponent (cs ++ rest) = (.number n, some rest) := by
  cases cs with
  | nil => cases h
  | cons c cs =>
      rw [readExponent_cons] at h
      rw [List.cons_append, readExponent_cons]
      split_ifs at h ⊢
      · exact readPower_append hrest h
      · exact readPower_append hrest h
      · exact readPower_append hrest h

theorem readTail_of_follows (hrest : Follows rest) :
    readTail negative significand exponent rest = (real negative significand exponent, some rest) := by
  unfold readTail
  split
  · exact absurd rfl (hrest 'e' rfl).2.2.1
  · exact absurd rfl (hrest 'E' rfl).2.2.2
  · rfl

theorem readTail_append {cs : List Char} (hrest : Follows rest)
    (h : readTail negative significand exponent cs = (.number n, some [])) :
    readTail negative significand exponent (cs ++ rest) = (.number n, some rest) := by
  unfold readTail at h
  split at h
  · exact readExponent_append hrest h
  · exact readExponent_append hrest h
  · -- Nothing is left, so that there was nothing behind the digits.
    simp only [Prod.mk.injEq, Option.some.injEq] at h
    rcases h with ⟨hnode, rfl⟩
    rw [List.nil_append, readTail_of_follows hrest, hnode]

theorem readFraction_append {cs : List Char} (hrest : Follows rest)
    (h : readFraction negative significand exponent cs = (.number n, some [])) :
    readFraction negative significand exponent (cs ++ rest) = (.number n, some rest) := by
  unfold readFraction at h ⊢
  rw [(takeWhile_append cs hrest).1, (takeWhile_append cs hrest).2]
  cases hdigits : cs.takeWhile Char.isDigit with
  | nil =>
      rw [hdigits] at h
      cases hleft : cs.dropWhile Char.isDigit <;> simp [hleft, cut, bad] at h
  | cons d ds =>
      rw [hdigits] at h
      exact readTail_append hrest h

/-- Reads what is behind the digits before the point, some of which may not have fitted. -/
def readBehind (negative : Bool) (significand unfit : Nat) (fits : Bool) (cs : List Char) :
    Node × Option (List Char) :=
  match cs with
  | '.' :: more => readFraction negative significand unfit more
  | 'e' :: more => readExponent negative significand unfit more
  | 'E' :: more => readExponent negative significand unfit more
  | _ =>
      if fits then (integral negative significand, some cs)
      else (real negative significand unfit, some cs)

theorem readBehind_of_follows {unfit : Nat} {fits : Bool} (hrest : Follows rest) :
    readBehind negative significand unfit fits rest =
      if fits then (integral negative significand, some rest)
      else (real negative significand unfit, some rest) := by
  unfold readBehind
  split
  · exact absurd rfl (hrest '.' rfl).2.1
  · exact absurd rfl (hrest 'e' rfl).2.2.1
  · exact absurd rfl (hrest 'E' rfl).2.2.2
  · rfl

theorem readBehind_append {unfit : Nat} {fits : Bool} {cs : List Char} (hrest : Follows rest)
    (h : readBehind negative significand unfit fits cs = (.number n, some [])) :
    readBehind negative significand unfit fits (cs ++ rest) = (.number n, some rest) := by
  unfold readBehind at h
  split at h
  · exact readFraction_append hrest h
  · exact readExponent_append hrest h
  · exact readExponent_append hrest h
  · -- Nothing is left, so that there was nothing behind the digits.
    have hempty : cs = [] := by
      split_ifs at h
      · exact Option.some.inj (congrArg Prod.snd h)
      · exact Option.some.inj (congrArg Prod.snd h)
    subst hempty
    rw [List.nil_append, readBehind_of_follows hrest]
    split_ifs at h ⊢
    · rw [(Prod.mk.inj h).1]
    · rw [(Prod.mk.inj h).1]

/-- A number begins with digits, the first of which is a zero only if it is the only one. -/
theorem read_of_digits {cs : List Char} {d : Char} {ds : List Char}
    (hdigits : cs.takeWhile Char.isDigit = d :: ds) :
    read negative cs =
      if d = '0' ∧ ds ≠ [] then bad
      else
        let (significand, _, left) := absorb 0 0 (d :: ds)
        readBehind negative significand left.length left.isEmpty (cs.dropWhile Char.isDigit) := by
  unfold read
  rw [hdigits]
  by_cases hzero : d = '0'
  · subst hzero
    cases ds with
    | nil => rfl
    | cons d' ds => rfl
  · rw [if_neg fun h => hzero h.1]
    simp only
    split
    · simp_all
    · simp_all
    · simp_all
    · rfl

/-- A number is read as it is on its own, whatever comes behind it. -/
theorem read_append {cs : List Char} (hrest : Follows rest)
    (h : read negative cs = (.number n, some [])) :
    read negative (cs ++ rest) = (.number n, some rest) := by
  have hsame := takeWhile_append cs hrest
  cases hdigits : cs.takeWhile Char.isDigit with
  | nil =>
      unfold read at h
      rw [hdigits] at h
      cases hleft : cs.dropWhile Char.isDigit <;> simp [hleft, cut, bad] at h
  | cons d ds =>
      rw [read_of_digits hdigits] at h
      rw [read_of_digits (hsame.1.trans hdigits), hsame.2]
      split_ifs at h ⊢
      · cases h
      · exact readBehind_append hrest h

theorem exists_digit_of_read {cs : List Char} (h : read negative cs = (.number n, some [])) :
    ∃ c more, cs = c :: more ∧ c.isDigit := by
  cases cs with
  | nil => cases h
  | cons c more =>
      cases hc : c.isDigit with
      | true => exact ⟨c, more, rfl, hc⟩
      | false =>
          unfold read at h
          simp [hc, bad] at h

/-! ## Integers -/

/-- A natural number has no leading zero. -/
theorem head_toDigits_ne_zero {n : Nat} (hn : 0 < n) {d : Char} {ds : List Char}
    (h : Nat.toDigits 10 n = d :: ds) : d ≠ '0' := by
  induction n using Nat.strongRecOn generalizing d ds with
  | ind n ih =>
      by_cases hsmall : n < 10
      · rw [Nat.toDigits_of_lt_base hsmall] at h
        rw [← (List.cons.inj h).1]
        interval_cases n <;> decide
      · rw [Nat.toDigits_of_base_le (by decide) (Nat.not_lt.1 hsmall)] at h
        have hpositive : 0 < n / 10 := Nat.div_pos (Nat.not_lt.1 hsmall) (by decide)
        cases hfront : Nat.toDigits 10 (n / 10) with
        | nil => exact absurd hfront Nat.toDigits_ne_nil
        | cons d' ds' =>
            rw [hfront] at h
            rw [← (List.cons.inj h).1]
            exact ih (n / 10) (by omega) hpositive hfront

theorem le_ofDigitChars (ds : List Char) (n : Nat) : n ≤ Nat.ofDigitChars 10 ds n := by
  induction ds generalizing n with
  | nil => exact Nat.le_refl n
  | cons d ds ih =>
      have hnext := ih (10 * n + (d.toNat - '0'.toNat))
      rw [Nat.ofDigitChars_cons]
      omega

theorem absorb_of_lt (ds : List Char) (significand taken : Nat)
    (h : Nat.ofDigitChars 10 ds significand < UInt64.size) :
    absorb significand taken ds =
      (Nat.ofDigitChars 10 ds significand, taken + ds.length, []) := by
  induction ds generalizing significand taken with
  | nil => rfl
  | cons d ds ih =>
      rw [Nat.ofDigitChars_cons] at h ⊢
      have hnext : significand * 10 + digitValue d < UInt64.size := by
        have hle := le_ofDigitChars ds (10 * significand + (d.toNat - '0'.toNat))
        rw [Nat.mul_comm significand]
        exact hle.trans_lt h
      rw [Nat.mul_comm 10] at h ⊢
      simp only [absorb, if_pos hnext]
      refine (ih _ (taken + 1) h).trans ?_
      rw [List.length_cons]
      congr 2
      omega

/-- A natural number that fits is read as it was written. -/
theorem read_toDigits (negative : Bool) {n : Nat} (h : n < UInt64.size) :
    read negative (Nat.toDigits 10 n) = (integral negative n, some []) := by
  have hdigit : ∀ c ∈ Nat.toDigits 10 n, c.isDigit = true := fun c hc =>
    Nat.isDigit_of_mem_toDigits (by decide) (by decide) hc
  have htake : (Nat.toDigits 10 n).takeWhile Char.isDigit = Nat.toDigits 10 n := by
    simpa using (List.takeWhile_append_of_pos hdigit : (_ ++ ([] : List Char)).takeWhile _ = _)
  have hdrop : (Nat.toDigits 10 n).dropWhile Char.isDigit = [] := by
    simpa using (List.dropWhile_append_of_pos hdigit : (_ ++ ([] : List Char)).dropWhile _ = _)
  have hvalue : Nat.ofDigitChars 10 (Nat.toDigits 10 n) 0 = n :=
    Nat.ofDigitChars_toDigits (by decide) (by decide)
  have habsorb := absorb_of_lt (Nat.toDigits 10 n) 0 0 (hvalue.symm ▸ h)
  cases hparts : Nat.toDigits 10 n with
  | nil => exact absurd hparts Nat.toDigits_ne_nil
  | cons d ds =>
      have hzero : ¬ (d = '0' ∧ ds ≠ []) := by
        rintro ⟨hd, hds⟩
        rcases Nat.eq_zero_or_pos n with rfl | hn
        · exact hds (List.cons.inj hparts).2.symm
        · exact head_toDigits_ne_zero hn hparts hd
      rw [hparts] at htake hdrop habsorb hvalue
      rw [read_of_digits htake, if_neg hzero, habsorb, hdrop, hvalue]
      rfl

end Numeral

/-- The text of a number is read as that number, and nothing of it is left. -/
def Number.ReadsBack (n : Number) : Prop :=
  match n.write.toList with
  | '-' :: cs => Numeral.read true cs = (.number n, some [])
  | cs => Numeral.read false cs = (.number n, some [])

theorem Number.readsBack_of_unsigned {n : Number} (h : n.write.toList.head? ≠ some '-')
    (hread : Numeral.read false n.write.toList = (.number n, some [])) : n.ReadsBack := by
  unfold Number.ReadsBack
  split
  · rename_i cs htext
    rw [htext] at h
    exact absurd rfl h
  · exact hread

/-- An integer that is a machine word is read as it was written. -/
theorem Number.readsBack_integer {i : Int} (hlow : -(UInt64.size / 2 : Nat) ≤ i)
    (hhigh : i < UInt64.size) : (Number.integer i).ReadsBack := by
  cases i with
  | ofNat n =>
      have htext : (Number.integer (.ofNat n)).write.toList = Nat.toDigits 10 n := Nat.toList_repr
      have hread := Numeral.read_toDigits false (Int.ofNat_lt.1 hhigh)
      refine readsBack_of_unsigned ?_ (htext ▸ hread)
      rw [htext]
      intro hsign
      have hdigit := Nat.isDigit_of_mem_toDigits (by decide) (by decide)
        (List.mem_of_mem_head? hsign)
      cases hdigit
  | negSucc n =>
      have htext : (Number.integer (.negSucc n)).write.toList = '-' :: Nat.toDigits 10 (n + 1) := by
        rw [Number.write, Int.toString_eq_repr, Int.repr, String.toList_append, Nat.toList_repr]
        rfl
      have hfits : n + 1 ≤ UInt64.size / 2 := by omega
      have hread := Numeral.read_toDigits true (hfits.trans_lt (by decide))
      rw [Numeral.integral, if_neg (by decide), if_pos ⟨Nat.succ_pos n, hfits⟩] at hread
      rw [ReadsBack, htext]
      exact hread

/-! ## Tokens in front of something -/

variable {rest : List Char}

theorem ne_of_isDigit {c : Char} (hc : c.isDigit) (other : Char) (hother : other.isDigit = false) :
    c ≠ other := by
  rintro rfl
  rw [hother] at hc
  cases hc

theorem isBlank_of_isDigit {c : Char} (hc : c.isDigit) : isBlank c = false := by
  simp [isBlank, ne_of_isDigit hc ' ' rfl, ne_of_isDigit hc '\n' rfl,
    ne_of_isDigit hc '\t' rfl, ne_of_isDigit hc '\r' rfl]

theorem readValue_digit {c : Char} (hc : c.isDigit) (fuel depth : Nat) (cs : List Char) :
    readValue (fuel + 1) depth (c :: cs) = Numeral.read false (c :: cs) := by
  have hfirst : (c :: cs).dropWhile isBlank = c :: cs := by simp [isBlank_of_isDigit hc]
  rw [readValue, hfirst]
  split
  · contradiction
  all_goals simp_all

theorem readValue_number {n : Number} (h : n.ReadsBack) (hrest : Follows rest) (fuel depth : Nat) :
    readValue (fuel + 1) depth (n.write.toList ++ rest) = (.number n, some rest) := by
  unfold Number.ReadsBack at h
  split at h
  · rename_i cs htext
    rw [htext, List.cons_append, readValue]
    exact Numeral.read_append hrest h
  · rcases Numeral.exists_digit_of_read h with ⟨c, more, htext, hc⟩
    rw [htext] at h ⊢
    rw [List.cons_append, readValue_digit hc]
    exact Numeral.read_append hrest h

/-- The text of a number begins with its sign or with a digit. -/
theorem Number.ReadsBack.exists_head {n : Number} (h : n.ReadsBack) :
    ∃ c cs, n.write.toList = c :: cs ∧ (c = '-' ∨ c.isDigit) := by
  unfold Number.ReadsBack at h
  split at h
  · rename_i cs htext
    exact ⟨'-', cs, htext, .inl rfl⟩
  · rcases Numeral.exists_digit_of_read h with ⟨c, more, htext, hc⟩
    exact ⟨c, more, htext, .inr hc⟩

end Json
end LayoutAudit
