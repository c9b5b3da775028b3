import LayoutAudit.Proofs.Coordinate.Sum

/-!
# Proofs.Coordinate.Count — counts as doubles

A count is compared as a double.  Up to as many digits as a double has, a count is taken over digit
by digit, so that such a count is equal to another number only if it is that number; the double of a
larger number is larger than all of them.

* `Coordinate.unpack_pack_full`, `Coordinate.round_full` — packing and rounding a mantissa of as many
  digits as a double has;
* `Coordinate.parts_ofNat`, `Coordinate.parts_ofNat_large` — the doubles of small and of large numbers;
* `Coordinate.ofNat_beq_iff`, `Coordinate.one_le_ofNat_iff` — what comparisons of counts say.
-/

namespace LayoutAudit
namespace Coordinate

open Float.Model (Format UnpackedFloat totalExponent)
open Float.Model.UnpackedFloat

/-! ## Mantissas of all digits -/

/-- A mantissa of as many digits as a double has. -/
structure Full (m : Nat) : Prop where
  le : 2 ^ 52 ≤ m
  lt : m < 2 ^ 53

namespace Full

variable {m : Nat}

theorem pos (h : Full m) : 0 < m := Nat.lt_of_lt_of_le (by decide) h.le

theorem log2_eq (h : Full m) : m.log2 = 52 :=
  (Nat.log2_eq_iff h.pos.ne').2 ⟨h.le, h.lt⟩

end Full

theorem full_of_log2 {m : Nat} (h : m.log2 = 52) : Full m := by
  have hm : m ≠ 0 := by
    rintro rfl
    simp at h
  exact ⟨((Nat.log2_eq_iff hm).1 h).1, ((Nat.log2_eq_iff hm).1 h).2⟩

theorem log2_mul_two_pow {m : Nat} (hm : m ≠ 0) (k : Nat) : (m * 2 ^ k).log2 = m.log2 + k := by
  induction k with
  | zero => simp
  | succ k ih =>
      have hne : m * 2 ^ k ≠ 0 := Nat.mul_ne_zero hm (Nat.two_pow_pos k).ne'
      rw [Nat.pow_succ', Nat.mul_left_comm, Nat.log2_two_mul hne, ih, Nat.add_assoc]

theorem unpackSign_packComponents (s : Sign) (exponent : BitVec 11) (mantissa : BitVec 52) :
    unpackSign (packComponents .binary64 s exponent mantissa) = s.toBitVec := by
  unfold unpackSign packComponents
  simp only [BitVec.extractLsb]
  rw [BitVec.extractLsb'_append_eq_of_le (by decide),
    BitVec.extractLsb'_append_eq_of_le (by decide)]
  cases s <;> rfl

/-- A positive double of all digits is itself again when it is packed, or too large for a double. -/
theorem unpack_pack_full {m : Nat} {e : Int} (h : Full m) (he : -1074 ≤ e) :
    unpack .binary64 (pack .binary64 (.finite .positive m e h.pos)) =
      if e ≤ 971 then .finite .positive m e h.pos else .infinity .positive := by
  have hle := h.le
  have hlt := h.lt
  rw [pack_finite, h.log2_eq, if_pos rfl]
  by_cases hover : 2 ^ 11 ≤ (e + 1075).toNat + 1
  · rw [if_pos hover, if_neg (by omega)]
    rfl
  · rcases exponent_field he hover with ⟨hexponent, hspecial, hzero⟩
    have hmantissa : (1#1 ++ BitVec.ofNat 52 m).toNat = m := by
      rw [toNat_one_append, BitVec.toNat_ofNat]
      omega
    rcases unpack_normal (b := packComponents .binary64 .positive
        (BitVec.ofNat 11 (e + 1075).toNat) (BitVec.ofNat 52 m))
      (by rwa [unpackExponent_packComponents]) (by rwa [unpackExponent_packComponents])
      with ⟨hm, hunpack⟩
    rw [if_neg hover, if_pos (by omega), hunpack, UnpackedFloat.finite.injEq,
      unpackSign_packComponents, unpackExponent_packComponents, unpackMantissa_packComponents,
      hmantissa, hexponent]
    refine ⟨rfl, rfl, ?_⟩
    omega

/-! ## Rounding -/

/-- Nothing is lost where only zeros are dropped. -/
theorem shiftRight_exact (m k : Nat) :
    ExtendedMantissa.ofMantissaAndAccuracy (m * 2 ^ k) .exact >>> k =
      ExtendedMantissa.ofMantissaAndAccuracy m .exact := by
  induction k generalizing m with
  | zero =>
      rw [Nat.pow_zero, Nat.mul_one]
      rfl
  | succ k ih =>
      change (ExtendedMantissa.ofMantissaAndAccuracy (m * 2 ^ (k + 1)) .exact >>> k).shiftRightOne = _
      rw [Nat.pow_succ', ← Nat.mul_assoc, ih]
      simp [ExtendedMantissa.shiftRightOne, ExtendedMantissa.ofMantissaAndAccuracy]

/-- A mantissa with digits enough is shifted until it has as many as a double has. -/
theorem shift_full {m : Nat} {e : Int} (hm : 2 ^ 52 ≤ m) (he : -1074 ≤ e) (accuracy : Accuracy) :
    Full (shiftToTargetExponent .binary64 m e accuracy).1.mantissa ∧
      (shiftToTargetExponent .binary64 m e accuracy).2 = m.log2 + e - 52 := by
  have hlog : 52 ≤ m.log2 := (Nat.le_log2 (by omega)).2 hm
  have hfits := fits_shift (by omega : 0 < m) he accuracy
  have hshift : (max ((m.log2 : Int) + e - 52) (-1074) - e).toNat = m.log2 - 52 := by omega
  refine ⟨⟨?_, hfits.lt⟩, ?_⟩
  · rw [shiftToTargetExponent, targetExponent_eq, shiftToExponent, hshift, mantissa_shiftRight,
      mantissa_ofMantissaAndAccuracy, Nat.le_div_iff_mul_le (Nat.two_pow_pos _), ← Nat.pow_add,
      Nat.add_sub_cancel' hlog]
    exact Nat.log2_self_le (by omega)
  · rw [shiftToTargetExponent, targetExponent_eq, shiftToExponent, hshift]
    omega

/-- Rounding gives a mantissa of all digits, and never lowers the highest digit. -/
theorem round_full {m : Nat} {e : Int} (hm : 2 ^ 52 ≤ m) (he : -1074 ≤ e) (s : Sign)
    (accuracy : Accuracy) :
    ∃ m' e' hm', roundWithAccuracy .binary64 s m e accuracy = .finite s m' e' hm' ∧ Full m' ∧
      m.log2 + e - 52 ≤ e' := by
  have hfirst := shift_full hm he accuracy
  have hlog : 52 ≤ m.log2 := (Nat.le_log2 (by omega)).2 hm
  rcases hshift : shiftToTargetExponent .binary64 m e accuracy with ⟨em, e₁⟩
  rw [hshift] at hfirst
  dsimp only at hfirst
  -- Rounding up may carry into one digit more, so that the mantissa is shifted a second time.
  have hrounded : 2 ^ 52 ≤ em.roundedMantissa := hfirst.1.le.trans (le_roundedMantissa em)
  have hlog' : 52 ≤ em.roundedMantissa.log2 := (Nat.le_log2 (by omega)).2 hrounded
  have hsecond := shift_full (e := e₁) hrounded (by omega) .exact
  rcases hshift' : shiftToTargetExponent .binary64 em.roundedMantissa e₁ .exact with ⟨em', e₂⟩
  rw [hshift'] at hsecond
  dsimp only at hsecond
  refine ⟨em'.mantissa, e₂, hsecond.1.pos, ?_, hsecond.1, by omega⟩
  rw [roundWithAccuracy, hshift]
  dsimp only
  rw [hshift']
  exact dif_neg hsecond.1.pos.ne'

/-- Rounding takes nothing off but zeros. -/
theorem round_exact {m : Nat} {e : Int} (h : Full m) (he : -1074 ≤ e) (s : Sign) (k : Nat) :
    roundWithAccuracy .binary64 s (m * 2 ^ k) (e - k) .exact = .finite s m e h.pos := by
  have hshift (k : Nat) : shiftToTargetExponent .binary64 (m * 2 ^ k) (e - k) .exact =
      (.ofMantissaAndAccuracy m .exact, e) := by
    have hlog : (m * 2 ^ k).log2 = 52 + k := by rw [log2_mul_two_pow h.pos.ne', h.log2_eq]
    have hdropped : (max (((52 + k : Nat) : Int) + (e - k) - 52) (-1074) - (e - k)).toNat = k := by
      omega
    rw [shiftToTargetExponent, targetExponent_eq, shiftToExponent, hlog, hdropped,
      shiftRight_exact]
    congr 1
    omega
  have hsame : shiftToTargetExponent .binary64 m e .exact =
      (.ofMantissaAndAccuracy m .exact, e) := by simpa using hshift 0
  have hrounded : (ExtendedMantissa.ofMantissaAndAccuracy m .exact).roundedMantissa = m := rfl
  rw [roundWithAccuracy, hshift k]
  dsimp only
  rw [hrounded, hsame]
  exact dif_neg h.pos.ne'

/-! ## The doubles of natural numbers -/

/-- The digits of a number, filled up with zeros. -/
def filled (n : Nat) : Nat := n * 2 ^ (52 - n.log2)

theorem full_filled {n : Nat} (hpos : 0 < n) (hlt : n < 2 ^ 53) : Full (filled n) := by
  have hlog : n.log2 ≤ 52 := Nat.lt_succ_iff.1 ((Nat.log2_lt hpos.ne').2 hlt)
  have hfilled : (filled n).log2 = 52 := by
    rw [filled, log2_mul_two_pow hpos.ne', Nat.add_sub_cancel' hlog]
  exact full_of_log2 hfilled

/-- Without a fast path: the number as a mantissa, rounded. -/
theorem round_filled {n : Nat} (hpos : 0 < n) (hlt : n < 2 ^ 53) :
    UnpackedFloat.ofNat .binary64 n =
      .finite .positive (filled n) (n.log2 - 52) (full_filled hpos hlt).pos := by
  have hlog : n.log2 ≤ 52 := Nat.lt_succ_iff.1 ((Nat.log2_lt hpos.ne').2 hlt)
  have hmax : max ((n.log2 : Int) + 0 - 52) (-1074) = n.log2 - 52 := by omega
  have hraised : (0 - ((n.log2 : Int) - 52)).toNat = 52 - n.log2 := by omega
  have hexponent : (0 : Int) - ((52 - n.log2 : Nat) : Int) = n.log2 - 52 := by omega
  have hround := round_exact (full_filled hpos hlt) (e := n.log2 - 52) (by omega) .positive 0
  rw [Nat.pow_zero, Nat.mul_one, Nat.cast_zero, sub_zero] at hround
  have hgt : compare (n : Int) 0 = .gt := compare_gt_iff_gt.2 (by omega)
  rw [← hround, UnpackedFloat.ofNat, UnpackedFloat.ofInt, UnpackedFloat.normalize, hgt]
  simp only [UnpackedFloat.round, targetExponent_eq, Int.toNat_natCast, decreaseExponent, hmax,
    hraised, hexponent, Nat.shiftLeft_eq]
  rfl

theorem parts_ofNat_zero : parts (Float.ofNat 0) = .zero .positive := rfl

/-- A number of no more digits than a double has is taken over digit by digit. -/
theorem parts_ofNat {n : Nat} (hpos : 0 < n) (hlt : n < 2 ^ 53) :
    parts (Float.ofNat n) =
      .finite .positive (filled n) (n.log2 - 52) (full_filled hpos hlt).pos := by
  have hfull := full_filled hpos hlt
  have hlog : n.log2 ≤ 52 := Nat.lt_succ_iff.1 ((Nat.log2_lt hpos.ne').2 hlt)
  -- The number is read as an integer, and multiplied by the power of ten that is one.
  have hsmall : Float.ofNat n = n.toUInt64.toFloat * Float.ofBits 0x3FF0000000000000 := by
    change Float.ofScientific n false 0 = _
    rw [Float.ofScientific, dif_pos ⟨hlt, by decide⟩]
    rfl
  have hone : parts (Float.ofBits 0x3FF0000000000000) =
      .finite .positive (2 ^ 52) (-52) (by decide) := rfl
  have hnumber : parts n.toUInt64.toFloat =
      .finite .positive (filled n) (n.log2 - 52) hfull.pos := by
    have hword : n.toUInt64.toNat = n :=
      UInt64.toNat_ofNat_of_lt' (hlt.trans (by decide))
    change unpack .binary64 (pack .binary64 (.ofNat .binary64 n.toUInt64.toNat)) = _
    rw [hword, round_filled hpos hlt, unpack_pack_full hfull (by omega), if_pos (by omega)]
  have hproduct := round_exact hfull (e := n.log2 - 52) (by omega) .positive 52
  calc
    parts (Float.ofNat n)
        = unpack .binary64 (pack .binary64 (.mul .binary64 (parts n.toUInt64.toFloat)
            (parts (Float.ofBits 0x3FF0000000000000)))) := by rw [hsmall]; rfl
    _ = unpack .binary64 (pack .binary64 (roundWithAccuracy .binary64 .positive
            (filled n * 2 ^ 52) (n.log2 - 52 - (52 : Nat)) .exact)) := by rw [hone, hnumber]; rfl
    _ = .finite .positive (filled n) (n.log2 - 52) hfull.pos := by
          rw [hproduct, unpack_pack_full hfull (by omega), if_pos (by omega)]

/-- The double of a number of more digits than a double has is more than all that have no more. -/
theorem parts_ofNat_large {n : Nat} (hlarge : 2 ^ 53 ≤ n) :
    parts (Float.ofNat n) = .infinity .positive ∨
      ∃ m e hm, parts (Float.ofNat n) = .finite .positive m e hm ∧ 0 < e := by
  have hpos : 0 < n := by omega
  have hlog : 53 ≤ n.log2 := (Nat.le_log2 hpos.ne').2 hlarge
  have hmodel : Float.ofNat n = .ofModel (.ofScientific n 0) := by
    change Float.ofScientific n false 0 = _
    rw [Float.ofScientific, dif_neg (by omega)]
    rfl
  have hscientific : UnpackedFloat.ofScientific .binary64 n 0 =
      roundWithAccuracy .binary64 .positive (n * 2 ^ 53) (-53) .exact := by
    have hbits : Format.mantissaBits .binary64 = 53 := rfl
    rw [UnpackedFloat.ofScientific, dif_neg hpos.ne', if_neg (by decide),
      if_neg (show ¬ (0 : Int) < -((2 ^ 11 : Int) + n.log2) by omega), if_pos (by decide)]
    change roundWithAccuracy .binary64 (.positive * .positive)
      (n <<< Format.mantissaBits .binary64 * 10 ^ Int.toNat 0)
      (-Format.mantissaBits .binary64 + 0) .exact = _
    rw [hbits, Nat.shiftLeft_eq, Int.toNat_zero, Nat.pow_zero, Nat.mul_one]
    rfl
  have hdigits : (n * 2 ^ 53).log2 = n.log2 + 53 := log2_mul_two_pow hpos.ne' 53
  rcases round_full (m := n * 2 ^ 53) (e := -53) (by omega) (by omega) .positive .exact with
    ⟨m, e, hm, hround, hfull, he⟩
  have hparts : parts (Float.ofNat n) = if e ≤ 971 then .finite .positive m e hm
      else .infinity .positive := by
    rw [← unpack_pack_full hfull (by omega), ← hround, ← hscientific, hmodel]
    rfl
  by_cases hreach : e ≤ 971
  · rw [hparts, if_pos hreach]
    exact .inr ⟨m, e, hm, rfl, by omega⟩
  · rw [hparts, if_neg hreach]
    exact .inl rfl

/-! ## Comparisons of counts -/

theorem ofNat_isNaN (n : Nat) : (Float.ofNat n).isNaN = false := by
  change (parts (Float.ofNat n)).isNaN = false
  rcases Nat.eq_zero_or_pos n with rfl | hpos
  · rfl
  by_cases hlt : n < 2 ^ 53
  · rw [parts_ofNat hpos hlt]
    rfl
  · rcases parts_ofNat_large (Nat.le_of_not_lt hlt) with h | ⟨m, e, hm, h, -⟩ <;> rw [h] <;> rfl

/-- The digits and how many they are tell the number. -/
theorem filled_inj {c n : Nat} (hlog : c.log2 = n.log2) (h : filled c = filled n) : c = n := by
  rw [filled, filled, hlog] at h
  exact Nat.eq_of_mul_eq_mul_right (Nat.two_pow_pos _) h

/-- A count of no more digits than a double has is equal only to the number that it is. -/
theorem ofNat_beq_iff {c : Nat} (hc : c < 2 ^ 53) (n : Nat) :
    (Float.ofNat c == Float.ofNat n) = true ↔ c = n := by
  rw [beq_iff]
  rcases Nat.eq_zero_or_pos c with rfl | hcpos
  · rw [parts_ofNat_zero]
    rcases Nat.eq_zero_or_pos n with rfl | hnpos
    · exact iff_of_true rfl rfl
    · by_cases hn : n < 2 ^ 53
      · rw [parts_ofNat hnpos hn]
        exact iff_of_false nofun hnpos.ne
      · rcases parts_ofNat_large (Nat.le_of_not_lt hn) with h | ⟨m, e, hm, h, -⟩ <;> rw [h] <;>
          exact iff_of_false nofun hnpos.ne
  rw [parts_ofNat hcpos hc]
  rcases Nat.eq_zero_or_pos n with rfl | hnpos
  · rw [parts_ofNat_zero]
    exact iff_of_false nofun hcpos.ne'
  by_cases hn : n < 2 ^ 53
  · rw [parts_ofNat hnpos hn, compare_positive, Option.some.injEq, Ordering.then_eq_eq,
      compare_eq_iff_eq, compare_eq_iff_eq]
    constructor
    · rintro ⟨hexponent, hdigits⟩
      exact filled_inj (by omega) hdigits
    · rintro rfl
      exact ⟨rfl, rfl⟩
  · have hlog : c.log2 ≤ 52 := Nat.lt_succ_iff.1 ((Nat.log2_lt hcpos.ne').2 hc)
    have hne : c ≠ n := by omega
    rcases parts_ofNat_large (Nat.le_of_not_lt hn) with h | ⟨m, e, hm, h, he⟩
    · rw [h]
      exact iff_of_false nofun hne
    · have hexponent : (c.log2 : Int) - 52 ≠ e := by omega
      rw [h, compare_positive, Option.some.injEq, Ordering.then_eq_eq, compare_eq_iff_eq]
      exact iff_of_false (fun h => hexponent h.1) hne

/-- A count is at least one exactly if it is not zero. -/
theorem one_le_ofNat_iff (c : Nat) : Float.ofNat 1 ≤ Float.ofNat c ↔ 1 ≤ c := by
  have hone : parts (Float.ofNat 1) = .finite .positive (2 ^ 52) (-52) (by decide) := rfl
  rw [le_iff, hone]
  rcases Nat.eq_zero_or_pos c with rfl | hpos
  · rw [parts_ofNat_zero]
    exact iff_of_false nofun (by decide)
  by_cases hc : c < 2 ^ 53
  · have hle := (full_filled hpos hc).le
    rw [parts_ofNat hpos hc, compare_positive]
    rcases Nat.eq_zero_or_pos c.log2 with hlog | hlog
    · have hexponent : compare (-52 : Int) ((c.log2 : Int) - 52) = .eq :=
        compare_eq_iff_eq.2 (by omega)
      rw [hexponent]
      exact iff_of_true (Nat.isLE_compare.2 hle) hpos
    · have hexponent : compare (-52 : Int) ((c.log2 : Int) - 52) = .lt :=
        compare_lt_iff_lt.2 (by omega)
      rw [hexponent]
      exact iff_of_true rfl hpos
  · rcases parts_ofNat_large (Nat.le_of_not_lt hc) with h | ⟨m, e, hm, h, he⟩
    · rw [h]
      exact iff_of_true rfl hpos
    · have hexponent : compare (-52 : Int) e = .lt := compare_lt_iff_lt.2 (by omega)
      rw [h, compare_positive, hexponent]
      exact iff_of_true rfl hpos

end Coordinate
end LayoutAudit
