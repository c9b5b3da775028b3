import LayoutAudit.Coordinate
import LayoutAudit.Range
import Mathlib.Tactic.SplitIfs

/-!
# Proofs.Coordinate.Order — comparisons of doubles

Doubles are compared by what they stand for: a sign, a mantissa and an exponent, or one of the special
values.  What is undefined stands in no relation, so that a test that asks for a comparison to hold
fails on it, and one that asks for a comparison not to hold is passed.

* `Coordinate.lt_iff`, `Coordinate.le_iff`, `Coordinate.beq_iff` — comparisons of doubles are those of
  their parts;
* `Coordinate.mul_comm` — a product does not depend on the order of its factors;
* `Coordinate.rank_inj` — different doubles have different ranks;
* `Coordinate.not_lt_of_isNaN` and the like — no comparison with what is undefined holds;
* `Range.admits_of_isNaN` — no range admits it;
* `Range.admits_atLeast_iff`, `Range.admits_atMost_iff` — what ranges with one bound admit.
-/

namespace LayoutAudit
namespace Coordinate

open Float.Model (UnpackedFloat)

variable {x y : Float}

/-! ## Parts -/

/-- The sign, the mantissa and the exponent of a double, or which special value it is. -/
def parts (x : Float) : UnpackedFloat := x.toModel.unpack

theorem lt_iff : x < y ↔ (parts x).compare (parts y) = some .lt := by
  change decide (x.toModel < y.toModel) = true ↔ _
  rw [decide_eq_true_iff]
  change ((parts x).compare (parts y) == some .lt) = true ↔ _
  exact beq_iff_eq

theorem le_iff : x ≤ y ↔ ((parts x).compare (parts y)).any (·.isLE) = true := by
  change decide (x.toModel ≤ y.toModel) = true ↔ _
  rw [decide_eq_true_iff]
  exact Iff.rfl

theorem beq_iff : (x == y) = true ↔ (parts x).compare (parts y) = some .eq := by
  change ((parts x).compare (parts y) == some .eq) = true ↔ _
  exact beq_iff_eq

section Sizes

variable {m m' : Nat} {e e' : Int} (hm : 0 < m) (hm' : 0 < m')

/-- Above zero the exponents are compared first, and then the mantissas. -/
theorem compare_positive :
    (UnpackedFloat.finite .positive m e hm).compare (.finite .positive m' e' hm') =
      some ((compare e e').then (compare m m')) :=
  rfl

/-- Below zero the comparison is the other way round. -/
theorem compare_negative :
    (UnpackedFloat.finite .negative m e hm).compare (.finite .negative m' e' hm') =
      some ((compare e e').then (compare m m')).swap :=
  rfl

end Sizes

/-- The difference of doubles is that of their parts. -/
theorem sub_eq (x y : Float) :
    x - y = .ofModel (.pack (UnpackedFloat.sub .binary64 (parts x) (parts y))) :=
  rfl

/-- The product of doubles is that of their parts. -/
theorem mul_eq (x y : Float) :
    x * y = .ofModel (.pack (UnpackedFloat.mul .binary64 (parts x) (parts y))) :=
  rfl

theorem sign_mul_comm (s t : UnpackedFloat.Sign) : s * t = t * s := by
  cases s <;> cases t <;> rfl

theorem unpacked_mul_comm (format : Float.Model.Format) (u v : UnpackedFloat) :
    UnpackedFloat.mul format u v = UnpackedFloat.mul format v u := by
  cases u with
  | notANumber => cases v <;> rfl
  | infinity s =>
      cases v with
      | notANumber => rfl
      | infinity t => exact congrArg UnpackedFloat.infinity (sign_mul_comm s t)
      | zero t => rfl
      | finite t _ _ _ => exact congrArg UnpackedFloat.infinity (sign_mul_comm s t)
  | zero s =>
      cases v with
      | notANumber => rfl
      | infinity t => rfl
      | zero t => exact congrArg UnpackedFloat.zero (sign_mul_comm s t)
      | finite t _ _ _ => exact congrArg UnpackedFloat.zero (sign_mul_comm s t)
  | finite s m e _ =>
      cases v with
      | notANumber => rfl
      | infinity t => exact congrArg UnpackedFloat.infinity (sign_mul_comm s t)
      | zero t => exact congrArg UnpackedFloat.zero (sign_mul_comm s t)
      | finite t n k _ =>
          change UnpackedFloat.roundWithAccuracy format (s * t) (m * n) (e + k) .exact =
            UnpackedFloat.roundWithAccuracy format (t * s) (n * m) (k + e) .exact
          rw [sign_mul_comm s t, Nat.mul_comm m n, Int.add_comm e k]

theorem mul_comm (x y : Float) : x * y = y * x := by
  rw [mul_eq, mul_eq, unpacked_mul_comm]

/-! ## The total order -/

/-- Doubles with the same bits are the same, since what is undefined has one pattern of bits. -/
theorem toBits_inj {x y : Float} (h : x.toBits = y.toBits) : x = y := by
  rcases x with ⟨x, hx⟩
  rcases y with ⟨y, hy⟩
  have hbits : x = y := h
  subst hbits
  rfl

theorem rank_inj {x y : Float} (h : rank x = rank y) : x = y := by
  have hx := x.toBits.toNat_lt
  have hy := y.toBits.toNat_lt
  have hsize : UInt64.size / 2 = 2 ^ 63 := rfl
  simp only [rank, hsize] at h
  -- Whether the sign bit is set shows in the sign of the rank, and the other bits in its size.
  have hnat : x.toBits.toNat = y.toBits.toNat := by
    split_ifs at h <;> omega
  exact toBits_inj (UInt64.toNat_inj.1 hnat)

/-! ## What is undefined -/

theorem parts_of_isNaN (h : x.isNaN = true) : parts x = .notANumber := by
  have hparts : (parts x).isNaN = true := h
  cases hx : parts x with
  | notANumber => rfl
  | infinity s =>
      rw [hx] at hparts
      cases hparts
  | zero s =>
      rw [hx] at hparts
      cases hparts
  | finite s m e hm =>
      rw [hx] at hparts
      cases hparts

theorem compare_left_of_isNaN (h : x.isNaN = true) (y : Float) :
    (parts x).compare (parts y) = none := by
  rw [parts_of_isNaN h]
  rfl

theorem compare_right_of_isNaN (h : x.isNaN = true) (y : Float) :
    (parts y).compare (parts x) = none := by
  rw [parts_of_isNaN h]
  cases parts y <;> rfl

theorem not_lt_of_isNaN (h : x.isNaN = true) (y : Float) : ¬ x < y := by
  rw [lt_iff, compare_left_of_isNaN h]
  intro h
  cases h

theorem not_gt_of_isNaN (h : x.isNaN = true) (y : Float) : ¬ y < x := by
  rw [lt_iff, compare_right_of_isNaN h]
  intro h
  cases h

theorem not_le_of_isNaN (h : x.isNaN = true) (y : Float) : ¬ x ≤ y := by
  rw [le_iff, compare_left_of_isNaN h]
  intro h
  cases h

theorem not_ge_of_isNaN (h : x.isNaN = true) (y : Float) : ¬ y ≤ x := by
  rw [le_iff, compare_right_of_isNaN h]
  intro h
  cases h

theorem beq_of_isNaN (h : x.isNaN = true) (y : Float) : (x == y) = false := by
  rw [Bool.eq_false_iff, ne_eq, beq_iff, compare_left_of_isNaN h]
  intro h
  cases h

/-- The magnitude of what is undefined is undefined. -/
theorem abs_isNaN (h : x.isNaN = true) : x.abs.isNaN = true := by
  have habs : x.abs = .ofModel (.pack (parts x).abs) := rfl
  rw [habs, parts_of_isNaN h]
  decide

end Coordinate

/-- Whatever a range asks for, what is undefined is not it. -/
theorem Range.admits_of_isNaN {x : Float} (h : x.isNaN = true) (range : Range) :
    range.admits x = false := by
  simp only [Range.admits, h, Bool.not_true, Bool.false_and]

/-- Where a comparison has to hold, nothing more is asked: it does not hold of what is undefined. -/
theorem Range.admits_atLeast_iff {min x : Float} :
    (Range.atLeast min).admits x = true ↔ min ≤ x := by
  cases hnan : x.isNaN with
  | false => simp only [admits, hnan, Bool.not_false, Bool.true_and, decide_eq_true_iff]
  | true => simp only [admits_of_isNaN hnan, Coordinate.not_ge_of_isNaN hnan, Bool.false_eq_true]

theorem Range.admits_atMost_iff {max x : Float} :
    (Range.atMost max).admits x = true ↔ x ≤ max := by
  cases hnan : x.isNaN with
  | false => simp only [admits, hnan, Bool.not_false, Bool.true_and, decide_eq_true_iff]
  | true => simp only [admits_of_isNaN hnan, Coordinate.not_le_of_isNaN hnan, Bool.false_eq_true]

end LayoutAudit
