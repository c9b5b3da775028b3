import LayoutAudit.Proofs.Coordinate.Order
import Mathlib.Algebra.Order.Ring.Int

/-!
# Proofs.Coordinate.Sum — which sums are zero

A sum of doubles is rounded to as many digits as a double has.  The mantissa of what is added is a
number of the least unit there is, so that rounding never takes all of it: a sum is zero only if its
operands cancel, or are zero themselves.  Two doubles that cancel add up to `0`, which leaves one way
to reach `-0`.

* `Coordinate.Fits` — a mantissa and an exponent that a double may have;
* `Coordinate.fits_shift`, `Coordinate.fits_round` — rounding gives such a pair, and never zero;
* `Coordinate.unpack_pack_ne_zero` — nor does it become zero when it is packed;
* `Coordinate.unpack_special`, `Coordinate.unpack_subnormal`, `Coordinate.unpack_normal` — what the
  fields of a double say;
* `Coordinate.parts_of_add_eq_negative_zero` — a sum is `-0` only if what is added to is;
* `Coordinate.sub_zero_congr` — which zero is subtracted shows only at `-0`.
-/

namespace LayoutAudit
namespace Coordinate

open Float.Model (Format UnpackedFloat totalExponent)
open Float.Model.UnpackedFloat

/-- A mantissa and an exponent that a double may have. -/
structure Fits (m : Nat) (e : Int) : Prop where
  pos : 0 < m
  lt : m < 2 ^ 53
  le : -1074 ≤ e

/-! ## Rounding -/

theorem mantissa_shiftRight (em : ExtendedMantissa) (k : Nat) :
    (em >>> k).mantissa = em.mantissa / 2 ^ k := by
  induction k with
  | zero => exact (Nat.div_one _).symm
  | succ k ih =>
      change (em >>> k).mantissa / 2 = _
      rw [ih, Nat.div_div_eq_div_mul, Nat.pow_succ]

theorem mantissa_ofMantissaAndAccuracy (m : Nat) (accuracy : Accuracy) :
    (ExtendedMantissa.ofMantissaAndAccuracy m accuracy).mantissa = m := by
  cases accuracy with
  | exact => rfl
  | inexact side => cases side <;> rfl

theorem le_roundedMantissa (em : ExtendedMantissa) : em.mantissa ≤ em.roundedMantissa := by
  rcases em with ⟨m, r, s⟩
  cases r <;> cases s <;>
    simp [ExtendedMantissa.roundedMantissa, ExtendedMantissa.accuracy, Accuracy.roundToNearestEven]

theorem targetExponent_binary64 (n : Int) :
    Format.targetExponent .binary64 n = max (n - 53) (-1074) := rfl

theorem targetExponent_eq (m : Nat) (e : Int) :
    Format.targetExponent .binary64 (totalExponent m e) =
      max ((m.log2 : Int) + e - 52) (-1074) := by
  rw [targetExponent_binary64, totalExponent]
  omega

/-- A mantissa is shifted until it fits, and keeps its highest digit. -/
theorem fits_shift {m : Nat} {e : Int} (hm : 0 < m) (he : -1074 ≤ e) (accuracy : Accuracy) :
    Fits (shiftToTargetExponent .binary64 m e accuracy).1.mantissa
      (shiftToTargetExponent .binary64 m e accuracy).2 := by
  -- Digits are dropped only if there are more than fit, and then just the surplus.
  generalize hk : (max ((m.log2 : Int) + e - 52) (-1074) - e).toNat = k
  have hmantissa : (shiftToTargetExponent .binary64 m e accuracy).1.mantissa = m / 2 ^ k := by
    rw [shiftToTargetExponent, targetExponent_eq, shiftToExponent, hk, mantissa_shiftRight,
      mantissa_ofMantissaAndAccuracy]
  have hexponent : (shiftToTargetExponent .binary64 m e accuracy).2 = e + k := by
    rw [shiftToTargetExponent, targetExponent_eq, shiftToExponent, hk]
  have hdigits : m.log2 ≤ 52 + k := by omega
  have hsurplus : k ≤ m.log2 := by omega
  rw [hmantissa, hexponent]
  refine ⟨?_, ?_, by omega⟩
  · have hlow : 2 ^ k ≤ m :=
      (Nat.pow_le_pow_right (by decide) hsurplus).trans (Nat.log2_self_le hm.ne')
    exact Nat.div_pos hlow (Nat.two_pow_pos k)
  · have hhigh : m < 2 ^ (53 + k) :=
      Nat.lt_log2_self.trans_le (Nat.pow_le_pow_right (by decide) (by omega))
    rw [Nat.div_lt_iff_lt_mul (Nat.two_pow_pos k), ← Nat.pow_add]
    exact hhigh

theorem fits_roundWithAccuracy {m : Nat} {e : Int} (hm : 0 < m) (he : -1074 ≤ e) (s : Sign)
    (accuracy : Accuracy) :
    ∃ m' e' hm', roundWithAccuracy .binary64 s m e accuracy = .finite s m' e' hm' ∧ Fits m' e' := by
  -- Rounding up may carry into one digit more, so that the mantissa is shifted a second time.
  have hfirst := fits_shift hm he accuracy
  have hpos := hfirst.pos.trans_le (le_roundedMantissa _)
  have hsecond := fits_shift hpos hfirst.le .exact
  exact ⟨_, _, hsecond.pos, dif_neg hsecond.pos.ne', hsecond⟩

theorem fits_round {m : Nat} {e : Int} (hm : 0 < m) (he : -1074 ≤ e) (s : Sign) :
    ∃ m' e' hm', UnpackedFloat.round .binary64 s m e = .finite s m' e' hm' ∧ Fits m' e' := by
  -- Before digits are dropped, the exponent is lowered as far as it may be.
  generalize htarget : Format.targetExponent .binary64 (totalExponent m e) = target
  have hleast : -1074 ≤ target := by
    rw [← htarget, targetExponent_binary64]
    exact le_max_right _ _
  have hpos : 0 < (decreaseExponent m e target).1 := by
    simp only [decreaseExponent, Nat.shiftLeft_eq]
    exact Nat.mul_pos hm (Nat.two_pow_pos _)
  have hle : -1074 ≤ (decreaseExponent m e target).2 := by
    simp only [decreaseExponent]
    omega
  rw [UnpackedFloat.round, htarget]
  exact fits_roundWithAccuracy hpos hle s .exact

/-! ## Packing -/

theorem pack_finite (s : Sign) (m : Nat) (e : Int) (hm : 0 < m) :
    pack .binary64 (.finite s m e hm) =
      if 2 ^ 11 ≤ (e + 1075).toNat + 1 then packedInfinity .binary64 s
      else if m.log2 + 1 = 53 then
        packComponents .binary64 s (BitVec.ofNat 11 (e + 1075).toNat) (BitVec.ofNat 52 m)
      else packComponents .binary64 s 0#11 (BitVec.ofNat 52 m) := by
  have hbiased : (e + (1023 : Nat) + (52 : Nat)).toNat = (e + 1075).toNat := by omega
  rw [← hbiased]
  rfl

/-- The exponent of a normal number fits into its field, which says nothing else. -/
theorem exponent_field {e : Int} (he : -1074 ≤ e) (hover : ¬ 2 ^ 11 ≤ (e + 1075).toNat + 1) :
    (BitVec.ofNat 11 (e + 1075).toNat).toNat = (e + 1075).toNat ∧
      BitVec.ofNat 11 (e + 1075).toNat ≠ -1#11 ∧ BitVec.ofNat 11 (e + 1075).toNat ≠ 0#11 := by
  have hexponent : (BitVec.ofNat 11 (e + 1075).toNat).toNat = (e + 1075).toNat := by
    rw [BitVec.toNat_ofNat, Nat.mod_eq_of_lt (by omega)]
  have hones : (-1#11).toNat = 2047 := rfl
  have hnone : (0#11).toNat = 0 := rfl
  refine ⟨hexponent, ?_, ?_⟩ <;> rw [ne_eq, ← BitVec.toNat_inj, hexponent] <;> omega

section Fields

variable {b : BitVec 64}

theorem unpack_special (hspecial : @unpackExponent .binary64 b = -1#11) :
    unpack .binary64 b = .notANumber ∨ ∃ s, unpack .binary64 b = .infinity s := by
  unfold unpack
  dsimp only
  rw [if_pos hspecial]
  by_cases hmantissa : @unpackMantissa .binary64 b = 0#52
  · rw [if_pos hmantissa]
    exact .inr ⟨_, rfl⟩
  · rw [if_neg hmantissa]
    exact .inl rfl

/-- A zero has nothing but its sign, and a subnormal number has the least exponent. -/
theorem unpack_subnormal (hexponent : @unpackExponent .binary64 b = 0#11) :
    (@unpackMantissa .binary64 b = 0#52 ∧
      unpack .binary64 b = .zero (.ofBitVec (@unpackSign .binary64 b))) ∨
    ∃ hm, unpack .binary64 b = .finite (.ofBitVec (@unpackSign .binary64 b))
      (@unpackMantissa .binary64 b).toNat (-1074) hm := by
  have hspecial : @unpackExponent .binary64 b ≠ -1#11 := by
    rw [hexponent]
    decide
  unfold unpack
  dsimp only
  rw [if_neg hspecial, if_pos hexponent]
  by_cases hmantissa : @unpackMantissa .binary64 b = 0#52
  · rw [dif_pos hmantissa]
    exact .inl ⟨hmantissa, rfl⟩
  · have hpos : 0 < (@unpackMantissa .binary64 b).toNat :=
      Nat.pos_of_ne_zero (BitVec.toNat_ne.1 hmantissa)
    rw [dif_neg hmantissa, hexponent]
    exact .inr ⟨hpos, rfl⟩

/-- The digit that is left out is the highest one. -/
theorem toNat_one_append (v : BitVec 52) : (1#1 ++ v).toNat = 2 ^ 52 + v.toNat := by
  rw [BitVec.toNat_append, ← Nat.shiftLeft_add_eq_or_of_lt v.isLt, Nat.shiftLeft_eq]
  rfl

/-- Of a normal number the highest digit is left out. -/
theorem unpack_normal (hspecial : @unpackExponent .binary64 b ≠ -1#11)
    (hexponent : @unpackExponent .binary64 b ≠ 0#11) :
    ∃ hm, unpack .binary64 b = .finite (.ofBitVec (@unpackSign .binary64 b))
      (1#1 ++ @unpackMantissa .binary64 b).toNat
      ((@unpackExponent .binary64 b).toNat - 1075) hm := by
  have hpos : 0 < (1#1 ++ @unpackMantissa .binary64 b).toNat := by
    rw [toNat_one_append]
    omega
  unfold unpack
  dsimp only
  rw [if_neg hspecial, if_neg hexponent]
  exact ⟨hpos, rfl⟩

theorem fits_of_unpack {s : Sign} {m : Nat} {e : Int} {hm : 0 < m}
    (h : unpack .binary64 b = .finite s m e hm) : Fits m e := by
  by_cases hspecial : @unpackExponent .binary64 b = -1#11
  · rcases unpack_special hspecial with hu | ⟨_, hu⟩ <;> rw [hu] at h <;> cases h
  by_cases hexponent : @unpackExponent .binary64 b = 0#11
  · rcases unpack_subnormal hexponent with ⟨-, hu⟩ | ⟨_, hu⟩ <;> rw [hu] at h <;> cases h
    have hlt := (@unpackMantissa .binary64 b).isLt
    exact ⟨hm, hlt.trans (by decide), le_rfl⟩
  · rcases unpack_normal hspecial hexponent with ⟨_, hu⟩
    rw [hu] at h
    cases h
    have hlt := (1#1 ++ @unpackMantissa .binary64 b).isLt
    have hpos : 0 < (@unpackExponent .binary64 b).toNat :=
      Nat.pos_of_ne_zero (BitVec.toNat_ne.1 hexponent)
    exact ⟨hm, hlt, by omega⟩

theorem fields_of_unpack_eq_zero {s : Sign} (h : unpack .binary64 b = .zero s) :
    @unpackExponent .binary64 b = 0#11 ∧ @unpackMantissa .binary64 b = 0#52 ∧
      Sign.ofBitVec (@unpackSign .binary64 b) = s := by
  by_cases hspecial : @unpackExponent .binary64 b = -1#11
  · rcases unpack_special hspecial with hu | ⟨_, hu⟩ <;> rw [hu] at h <;> cases h
  by_cases hexponent : @unpackExponent .binary64 b = 0#11
  · rcases unpack_subnormal hexponent with ⟨hmantissa, hu⟩ | ⟨_, hu⟩ <;> rw [hu] at h <;> cases h
    exact ⟨hexponent, hmantissa, rfl⟩
  · rcases unpack_normal hspecial hexponent with ⟨_, hu⟩
    rw [hu] at h
    cases h

end Fields

/-- What fits is not packed as zero. -/
theorem unpack_pack_ne_zero {m : Nat} {e : Int} (h : Fits m e) (hm : 0 < m) (s s' : Sign) :
    unpack .binary64 (pack .binary64 (.finite s m e hm)) ≠ .zero s' := by
  have hlt := h.lt
  have hle := h.le
  rw [pack_finite]
  split_ifs with hover hnormal
  · -- What is too large becomes an infinity.
    intro hzero
    cases s <;> cases hzero
  · -- A normal number has an exponent field that is not zero,
    rcases exponent_field hle hover with ⟨-, -, hexponent⟩
    intro hzero
    rcases fields_of_unpack_eq_zero hzero with ⟨hfield, -, -⟩
    rw [unpackExponent_packComponents] at hfield
    exact hexponent hfield
  · -- and a subnormal one has such a mantissa field.
    have hmantissa : BitVec.ofNat 52 m ≠ 0#52 := by
      have hlog : m.log2 < 52 := by
        have := (Nat.log2_lt hm.ne').2 hlt
        omega
      have hsmall : m < 2 ^ 52 := (Nat.log2_lt hm.ne').1 hlog
      rw [ne_eq, ← BitVec.toNat_inj, BitVec.toNat_ofNat, Nat.mod_eq_of_lt hsmall]
      exact hm.ne'
    intro hzero
    rcases fields_of_unpack_eq_zero hzero with ⟨-, hfield, -⟩
    rw [unpackMantissa_packComponents] at hfield
    exact hmantissa hfield

/-! ## Sums and differences -/

/-- Not `-0`, and of a mantissa and an exponent that fit, if there are any. -/
structure Ordinary (u : UnpackedFloat) : Prop where
  fits : ∀ {s m e hm}, u = .finite s m e hm → Fits m e
  ne : u ≠ .zero .negative

theorem Ordinary.unpack_pack_ne {u : UnpackedFloat} (h : Ordinary u) :
    unpack .binary64 (pack .binary64 u) ≠ .zero .negative := by
  intro hzero
  cases u with
  | notANumber => cases hzero
  | infinity s => cases s <;> cases hzero
  | zero s =>
      cases s with
      | negative => exact h.ne rfl
      | positive => cases hzero
  | finite s m e hm => exact unpack_pack_ne_zero (h.fits rfl) hm s .negative hzero

theorem ordinary_notANumber : Ordinary .notANumber where
  fits := by
    intro s m e hm h
    cases h
  ne := by
    intro h
    cases h

theorem ordinary_infinity (s : Sign) : Ordinary (.infinity s) where
  fits := by
    intro s' m e hm h
    cases h
  ne := by
    intro h
    cases h

theorem ordinary_zero : Ordinary (.zero .positive) where
  fits := by
    intro s m e hm h
    cases h
  ne := by
    intro h
    cases h

theorem ordinary_finite {m : Nat} {e : Int} (h : Fits m e) (s : Sign) :
    Ordinary (.finite s m e h.pos) where
  fits := by
    intro s' m' e' hm' heq
    cases heq
    exact h
  ne := by
    intro heq
    cases heq

/-- What becomes of a number of units is zero only if there are none, and then it is `0`. -/
theorem ordinary_normalize (n : Int) {e : Int} (he : -1074 ≤ e) :
    Ordinary (UnpackedFloat.normalize .binary64 n e .positive) := by
  have hrounded {m : Nat} (hm : 0 < m) (s : Sign) : Ordinary (UnpackedFloat.round .binary64 s m e) := by
    rcases fits_round hm he s with ⟨m', e', hm', hround, hfits⟩
    rw [hround]
    exact ordinary_finite hfits s
  rcases lt_trichotomy n 0 with hlt | rfl | hgt
  · rw [UnpackedFloat.normalize, compare_lt_iff_lt.2 hlt]
    exact hrounded (by omega) .negative
  · exact ordinary_zero
  · rw [UnpackedFloat.normalize, compare_gt_iff_gt.2 hgt]
    exact hrounded (by omega) .positive

theorem ordinary_add {u v : UnpackedFloat} (hu : Ordinary u)
    (hv : ∀ {s m e hm}, v = .finite s m e hm → Fits m e) : Ordinary (add .binary64 u v) := by
  -- Only where both are numbers other than zero there is something to add up and round.
  cases u with
  | notANumber => exact ordinary_notANumber
  | infinity s =>
      cases v with
      | notANumber => exact ordinary_notANumber
      | infinity s' =>
          cases s <;> cases s' <;> first | exact ordinary_infinity _ | exact ordinary_notANumber
      | zero s' => exact ordinary_infinity s
      | finite s' m' e' hm' => exact ordinary_infinity s
  | zero s =>
      cases s with
      | negative => exact absurd rfl hu.ne
      | positive =>
          cases v with
          | notANumber => exact ordinary_notANumber
          | infinity s' => exact ordinary_infinity s'
          | zero s' => cases s' <;> exact ordinary_zero
          | finite s' m' e' hm' => exact ordinary_finite (hv rfl) s'
  | finite s m e hm =>
      cases v with
      | notANumber => exact ordinary_notANumber
      | infinity s' => exact ordinary_infinity s'
      | zero s' => exact hu
      | finite s' m' e' hm' => exact ordinary_normalize _ (le_min (hu.fits rfl).le (hv rfl).le)

variable {x y y' : Float}

/-- There is one double that is `-0`: nothing but its sign bit is set. -/
theorem eq_negative_zero (h : parts x = .zero .negative) : x = -0.0 := by
  have hunpack : unpack .binary64 x.toBits.toBitVec = .zero .negative := h
  rcases fields_of_unpack_eq_zero hunpack with ⟨hexponent, hmantissa, hnegative⟩
  have hsign : @unpackSign .binary64 x.toBits.toBitVec ≠ 0#1 := by
    intro hzero
    rw [hzero] at hnegative
    cases hnegative
  -- The three fields, as digits of the number that the bits are.
  replace hexponent := congrArg BitVec.toNat hexponent
  replace hmantissa := congrArg BitVec.toNat hmantissa
  replace hsign := BitVec.toNat_ne.1 hsign
  unfold unpackSign at hsign
  simp [unpackExponent, Nat.shiftRight_eq_div_pow] at hexponent
  simp [unpackMantissa] at hmantissa
  simp [Nat.shiftRight_eq_div_pow] at hsign
  have hbits : (-0.0 : Float).toBits.toNat = 2 ^ 63 := by decide
  have hlt := x.toBits.toNat_lt
  exact toBits_inj (UInt64.toNat_inj.1 (by omega))

/-- A sum is `-0` only if what is added to is. -/
theorem parts_of_add_eq_negative_zero (h : parts (x + y) = .zero .negative) :
    parts x = .zero .negative := by
  by_contra hx
  have hordinary : Ordinary (add .binary64 (parts x) (parts y)) :=
    ordinary_add ⟨fits_of_unpack, hx⟩ fits_of_unpack
  exact hordinary.unpack_pack_ne h

theorem sub_congr (h : parts y = parts y') : x - y = x - y' := by
  rw [sub_eq, sub_eq, h]

/-- Which zero is subtracted shows only at `-0`. -/
theorem sub_zero_congr {s s' : Sign} (hy : parts y = .zero s) (hy' : parts y' = .zero s')
    (hx : parts x ≠ .zero .negative) : x - y = x - y' := by
  rw [sub_eq, sub_eq, hy, hy']
  cases hparts : parts x with
  | notANumber => rfl
  | infinity _ => rfl
  | finite _ _ _ _ => rfl
  | zero r =>
      cases r with
      | negative => exact absurd hparts hx
      | positive => cases s <;> cases s' <;> rfl

end Coordinate
end LayoutAudit
