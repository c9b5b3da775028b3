import LayoutAudit.Proofs.Coordinate.Count
import LayoutAudit.Proofs.Coordinate.Extreme

/-!
# Proofs.Coordinate.Magnitude — how far sums reach

A sum or a difference of doubles is of a size that is known from its operands: adding two mantissas of
the same exponent takes one digit more, and rounding may carry into another one.  So what is not too
large to begin with stays among the finite doubles, all of which lie between the least and the
greatest one.

* `Coordinate.Bounded` — zero, or a number with an exponent that is not above a bound;
* `Coordinate.bounded_round`, `Coordinate.bounded_unpack_pack` — rounding raises the bound by one, and
  packing does not;
* `Coordinate.bounded_parts_add`, `Coordinate.bounded_parts_sub` — sums and differences raise it by two;
* `Coordinate.lowest_le_iff` — all doubles but two are at least the least finite one;
* `Coordinate.bounded_of_moderate` — what lies far from the ends is bounded.
-/

namespace LayoutAudit
namespace Coordinate

open Float.Model (Format UnpackedFloat totalExponent)
open Float.Model.UnpackedFloat

/-- Zero, or a number with an exponent of at most `k`. -/
inductive Bounded (k : Int) : UnpackedFloat → Prop
  | zero (s : Sign) : Bounded k (.zero s)
  | finite (s : Sign) {m : Nat} {e : Int} (h : Fits m e) (he : e ≤ k) :
      Bounded k (.finite s m e h.pos)

variable {k : Int} {u v : UnpackedFloat}

theorem Bounded.isFinite (h : Bounded k u) : u.isFinite = true := by
  cases h <;> rfl

/-! ## Rounding -/

theorem roundedMantissa_le (em : ExtendedMantissa) : em.roundedMantissa ≤ em.mantissa + 1 := by
  have hparity : em.mantissa % 2 < 2 := Nat.mod_lt _ (by decide)
  rcases em with ⟨m, r, s⟩
  cases r <;> cases s <;>
    simp only [ExtendedMantissa.roundedMantissa, ExtendedMantissa.accuracy,
      Accuracy.roundToNearestEven] <;> omega

/-- The exponent that a mantissa is shifted to. -/
theorem shift_exponent (m : Nat) (e : Int) (accuracy : Accuracy) :
    (shiftToTargetExponent .binary64 m e accuracy).2 =
      max e (max ((m.log2 : Int) + e - 52) (-1074)) := by
  rw [shiftToTargetExponent, targetExponent_eq, shiftToExponent]
  omega

theorem bounded_roundWithAccuracy {m : Nat} {e : Int} (hm : 0 < m) (he : -1074 ≤ e)
    (hek : e ≤ k) (hsize : (m.log2 : Int) + e ≤ k + 52) (s : Sign) (accuracy : Accuracy) :
    Bounded (k + 1) (roundWithAccuracy .binary64 s m e accuracy) := by
  rcases hshift : shiftToTargetExponent .binary64 m e accuracy with ⟨em, e₁⟩
  have hfirst := fits_shift hm he accuracy
  have he₁ := shift_exponent m e accuracy
  rw [hshift] at hfirst he₁
  dsimp only at hfirst he₁
  -- Rounding up may carry into one digit more, so that the mantissa is shifted a second time.
  have hpos : 0 < em.roundedMantissa := hfirst.pos.trans_le (le_roundedMantissa em)
  have hcarry : em.roundedMantissa.log2 ≤ 53 := by
    have hle := roundedMantissa_le em
    have hlt := hfirst.lt
    have : em.roundedMantissa < 2 ^ 54 := by omega
    exact Nat.lt_succ_iff.1 ((Nat.log2_lt hpos.ne').2 this)
  have hsecond := fits_shift hpos hfirst.le .exact
  have he₂ := shift_exponent em.roundedMantissa e₁ .exact
  rw [roundWithAccuracy, hshift]
  dsimp only
  rw [dif_neg hsecond.pos.ne']
  exact .finite s hsecond (by omega)

/-- Rounding carries at most one digit. -/
theorem bounded_round {m : Nat} {e : Int} (hm : 0 < m) (he : -1074 ≤ e) (hk : -1074 ≤ k)
    (hsize : (m.log2 : Int) + e ≤ k + 52) (s : Sign) :
    Bounded (k + 1) (UnpackedFloat.round .binary64 s m e) := by
  -- The exponent is first lowered to where the mantissa has as many digits as fit.
  generalize htarget : max ((m.log2 : Int) + e - 52) (-1074) = target
  generalize hshift : (e - target).toNat = shift
  have hpos : 0 < m * 2 ^ shift := Nat.mul_pos hm (Nat.two_pow_pos shift)
  have hdigits : (m * 2 ^ shift).log2 = m.log2 + shift := log2_mul_two_pow hm.ne' shift
  have hround : UnpackedFloat.round .binary64 s m e =
      roundWithAccuracy .binary64 s (m * 2 ^ shift) (e - shift) .exact := by
    simp only [UnpackedFloat.round, targetExponent_eq, decreaseExponent, htarget, hshift,
      Nat.shiftLeft_eq]
  rw [hround]
  exact bounded_roundWithAccuracy hpos (by omega) (by omega) (by omega) s .exact

theorem bounded_normalize {n : Int} {e : Int} (he : -1074 ≤ e) (hk : -1074 ≤ k)
    (hsize : (n.natAbs.log2 : Int) + e ≤ k + 52) :
    Bounded (k + 1) (UnpackedFloat.normalize .binary64 n e .positive) := by
  rcases lt_trichotomy n 0 with hlt | rfl | hgt
  · have habs : n.natAbs = (-n).toNat := by omega
    rw [UnpackedFloat.normalize, compare_lt_iff_lt.2 hlt]
    exact bounded_round (by omega) he hk (habs ▸ hsize) .negative
  · exact .zero .positive
  · have habs : n.natAbs = n.toNat := by omega
    rw [UnpackedFloat.normalize, compare_gt_iff_gt.2 hgt]
    exact bounded_round (by omega) he hk (habs ▸ hsize) .positive

/-! ## Sums and differences -/

theorem natAbs_apply (s : Sign) (n : Int) : (s.apply n).natAbs = n.natAbs := by
  cases s
  · exact Int.natAbs_neg n
  · rfl

/-- Two mantissas that fit, at the lesser of their exponents. -/
theorem bounded_normalize_of_fits {m m' : Nat} {e e' : Int} (h : Fits m e) (h' : Fits m' e')
    (he : e ≤ k) (he' : e' ≤ k) {n : Int}
    (hn : n.natAbs ≤ m * 2 ^ (e - min e e').toNat + m' * 2 ^ (e' - min e e').toNat) :
    Bounded (k + 2) (UnpackedFloat.normalize .binary64 n (min e e') .positive) := by
  have hlow := h.le
  have hlow' := h'.le
  generalize hleast : min e e' = least at hn ⊢
  -- Neither of the two has more digits than fit below the bound, and adding takes one more.
  have hfits {m : Nat} {e : Int} (h : Fits m e) (he : e ≤ k) :
      m * 2 ^ (e - least).toNat < 2 ^ (53 + (k - least).toNat) := by
    rw [Nat.pow_add]
    exact Nat.mul_lt_mul_of_lt_of_le h.lt (Nat.pow_le_pow_right (by decide) (by omega))
      (Nat.two_pow_pos _)
  have hlt : n.natAbs < 2 ^ (53 + (k - least).toNat + 1) := by
    have hsum := Nat.add_lt_add (hfits h he) (hfits h' he')
    rw [Nat.pow_succ]
    omega
  have hlog : n.natAbs.log2 ≤ 53 + (k - least).toNat := by
    rcases Nat.eq_zero_or_pos n.natAbs with hzero | hpos
    · simp [hzero]
    · exact Nat.lt_succ_iff.1 ((Nat.log2_lt hpos.ne').2 hlt)
  have hnormal : Bounded (k + 1 + 1) (UnpackedFloat.normalize .binary64 n least .positive) :=
    bounded_normalize (by omega) (by omega) (by omega)
  rwa [Int.add_assoc] at hnormal

theorem bounded_add (hu : Bounded k u) (hv : Bounded k v) :
    Bounded (k + 2) (UnpackedFloat.add .binary64 u v) := by
  cases hu with
  | zero s =>
      cases hv with
      | zero s' => cases s <;> cases s' <;> exact .zero _
      | finite s' h' he' => exact .finite s' h' (by omega)
  | finite s h he =>
      cases hv with
      | zero s' => exact .finite s h (by omega)
      | @finite s' m' e' h' he' =>
          refine bounded_normalize_of_fits h h' he he' ((Int.natAbs_add_le _ _).trans ?_)
          simp [natAbs_apply, Int.natAbs_mul, Int.natAbs_pow, Nat.shiftLeft_eq]

theorem bounded_sub (hu : Bounded k u) (hv : Bounded k v) :
    Bounded (k + 2) (UnpackedFloat.sub .binary64 u v) := by
  cases hu with
  | zero s =>
      cases hv with
      | zero s' => cases s <;> cases s' <;> exact .zero _
      | finite s' h' he' => exact .finite (-s') h' (by omega)
  | finite s h he =>
      cases hv with
      | zero s' => exact .finite s h (by omega)
      | @finite s' m' e' h' he' =>
          refine bounded_normalize_of_fits h h' he he' ((Int.natAbs_sub_le _ _).trans ?_)
          simp [natAbs_apply, Int.natAbs_mul, Int.natAbs_pow, Nat.shiftLeft_eq]

/-! ## Packing -/

/-- The exponent of a number is told by its field. -/
theorem bounded_unpack {b : BitVec 64} (hdefined : @unpackExponent .binary64 b ≠ -1#11)
    (hlow : -1074 ≤ k) (hk : ((@unpackExponent .binary64 b).toNat : Int) ≤ k + 1075) :
    Bounded k (unpack .binary64 b) := by
  by_cases hexponent : @unpackExponent .binary64 b = 0#11
  · rcases unpack_subnormal hexponent with ⟨-, hu⟩ | ⟨_, hu⟩
    · rw [hu]
      exact .zero _
    · rw [hu]
      exact .finite _ (fits_of_unpack hu) hlow
  · rcases unpack_normal hdefined hexponent with ⟨_, hu⟩
    rw [hu]
    exact .finite _ (fits_of_unpack hu) (by omega)

theorem bounded_unpack_pack (h : Bounded k u) (hlow : -1074 ≤ k) (hhigh : k ≤ 971) :
    Bounded k (unpack .binary64 (pack .binary64 u)) := by
  cases h with
  | zero s => cases s <;> exact .zero _
  | @finite s m e h he =>
      have hle := h.le
      rw [pack_finite, if_neg (by omega)]
      by_cases hnormal : m.log2 + 1 = 53
      · rcases exponent_field hle (by omega) with ⟨hexponent, hspecial, -⟩
        rw [if_pos hnormal]
        apply bounded_unpack _ hlow
        · rw [unpackExponent_packComponents, hexponent]
          omega
        · rwa [unpackExponent_packComponents]
      · rw [if_neg hnormal]
        apply bounded_unpack _ hlow
        · rw [unpackExponent_packComponents]
          simp
          omega
        · rw [unpackExponent_packComponents]
          decide

/-! ## Doubles -/

variable {x y : Float}

theorem bounded_parts_add (hx : Bounded k (parts x)) (hy : Bounded k (parts y))
    (hlow : -1074 ≤ k) (hhigh : k ≤ 969) : Bounded (k + 2) (parts (x + y)) :=
  bounded_unpack_pack (bounded_add hx hy) (by omega) (by omega)

theorem bounded_parts_sub (hx : Bounded k (parts x)) (hy : Bounded k (parts y))
    (hlow : -1074 ≤ k) (hhigh : k ≤ 969) : Bounded (k + 2) (parts (x - y)) :=
  bounded_unpack_pack (bounded_sub hx hy) (by omega) (by omega)

theorem isFinite_of_bounded (h : Bounded k (parts x)) : x.isFinite = true := h.isFinite

/-- A finite double has one of the exponents that a double may have. -/
theorem bounded_of_isFinite (h : x.isFinite = true) : Bounded 971 (parts x) := by
  have hunpack : parts x = unpack .binary64 x.toBits.toBitVec := rfl
  have hdefined : @unpackExponent .binary64 x.toBits.toBitVec ≠ -1#11 := by
    intro hinf
    have hspecial : (parts x).isFinite = false := by
      rw [hunpack]
      rcases unpack_special hinf with hu | ⟨_, hu⟩ <;> rw [hu] <;> rfl
    have hfinite : (parts x).isFinite = true := h
    rw [hspecial] at hfinite
    cases hfinite
  have hlt := (@unpackExponent .binary64 x.toBits.toBitVec).isLt
  have hne := BitVec.toNat_ne.1 hdefined
  have hones : (-1#11).toNat = 2047 := rfl
  have hwidth : 2 ^ Format.exponentBits .binary64 = 2048 := rfl
  rw [hunpack]
  refine bounded_unpack hdefined (by decide) ?_
  omega

theorem parts_lowest : parts lowest = .finite .negative (2 ^ 53 - 1) 971 (by decide) := by
  have hbits : lowest = Float.ofBits 0xFFEFFFFFFFFFFFFF := toBits_inj (by decide +kernel)
  rw [hbits]
  rfl

/-- Finite, or above all that is. -/
def InReach (x : Float) : Prop := x.isFinite = true ∨ 0.0 < x

instance (x : Float) : Decidable (InReach x) := inferInstanceAs (Decidable (_ ∨ _))

/-- The least finite double is at most any double but two. -/
theorem lowest_le_iff : lowest ≤ x ↔ InReach x := by
  have hzero : parts 0.0 = .zero .positive := rfl
  have hfinite : x.isFinite = (parts x).isFinite := rfl
  have hreach : x.isFinite = true → Bounded 971 (parts x) := bounded_of_isFinite
  rw [InReach, le_iff, lt_iff, hzero, parts_lowest]
  rw [hfinite] at hreach ⊢
  cases hx : parts x with
  | notANumber => exact iff_of_false nofun (by rintro (h | h) <;> cases h)
  | infinity s =>
      cases s with
      | negative => exact iff_of_false nofun (by rintro (h | h) <;> cases h)
      | positive => exact iff_of_true rfl (.inr rfl)
  | zero s => exact iff_of_true rfl (.inl rfl)
  | finite s m e hm =>
      cases s with
      | positive => exact iff_of_true rfl (.inl rfl)
      | negative =>
          -- Below zero the greatest exponent and the greatest mantissa are those of the least double.
          refine iff_of_true ?_ (.inl rfl)
          rw [hx] at hreach
          cases hreach rfl with
          | finite _ h he =>
              have hlt := h.lt
              rw [compare_negative, Option.any_some, Ordering.isLE_swap]
              rcases lt_or_eq_of_le he with hless | rfl
              · rw [compare_gt_iff_gt.2 hless]
                rfl
              · rw [compare_eq_iff_eq.2 rfl]
                exact Nat.isGE_compare.2 (by omega)

theorem le_of_isLE_then {i j : Int} {o : Ordering} (h : ((compare i j).then o).isLE = true) :
    i ≤ j := by
  by_contra hlt
  rw [compare_gt_iff_gt.2 (Int.not_le.1 hlt)] at h
  cases h

/-- What lies between bounded numbers is bounded. -/
theorem Bounded.between {lo hi : UnpackedFloat} (hlo : Bounded k lo) (hhi : Bounded k hi)
    (hle : (lo.compare u).any (·.isLE) = true) (hge : (u.compare hi).any (·.isLE) = true)
    (hfits : ∀ {s m e hm}, u = .finite s m e hm → Fits m e) : Bounded k u := by
  cases u with
  | notANumber => cases hge
  | zero s => exact .zero s
  | infinity s =>
      cases s with
      | negative =>
          cases hlo with
          | zero s' => cases hle
          | finite s' h he => cases s' <;> cases hle
      | positive =>
          cases hhi with
          | zero s' => cases hge
          | finite s' h he => cases s' <;> cases hge
  | finite s m e hm =>
      refine .finite s (hfits rfl) ?_
      -- Of two numbers on one side of zero the one farther away has no lesser exponent.
      cases s with
      | negative =>
          cases hlo with
          | zero s' => cases hle
          | @finite s' m' e' h' he' =>
              cases s' with
              | positive => cases hle
              | negative =>
                  rw [compare_negative, Option.any_some, Ordering.swap_then,
                    Int.compare_swap] at hle
                  exact (le_of_isLE_then hle).trans he'
      | positive =>
          cases hhi with
          | zero s' => cases hge
          | @finite s' m' e' h' he' =>
              cases s' with
              | negative => cases hge
              | positive => exact (le_of_isLE_then hge).trans he'

theorem bounded_of_between {lo hi : Float} (hlo : Bounded k (parts lo)) (hhi : Bounded k (parts hi))
    (hle : lo ≤ x) (hge : x ≤ hi) : Bounded k (parts x) :=
  hlo.between hhi (le_iff.1 hle) (le_iff.1 hge) fits_of_unpack

/-- Far from the ends of the finite doubles. -/
structure Moderate (x : Float) : Prop where
  ge : -1e300 ≤ x
  le : x ≤ 1e300

theorem bounded_of_moderate (h : Moderate x) : Bounded 944 (parts x) := by
  have hbits : (-1e300 : Float) = Float.ofBits 0xFE37E43C8800759C := toBits_inj (by decide +kernel)
  have hbits' : (1e300 : Float) = Float.ofBits 0x7E37E43C8800759C := toBits_inj (by decide +kernel)
  have hfits : Fits 6724873095247260 944 := ⟨by decide, by decide, by decide⟩
  apply bounded_of_between _ _ h.ge h.le
  · rw [hbits]
    exact .finite .negative hfits le_rfl
  · rw [hbits']
    exact .finite .positive hfits le_rfl

end Coordinate
end LayoutAudit
