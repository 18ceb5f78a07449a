import Mathlib.Analysis.SpecialFunctions.Complex.Arg
import Mathlib.NumberTheory.Niven
import Magnetometer.Direction

/-!
# Angles

A direction is a complex number with whole parts, and its `angle` is the argument of that number, in
degrees, counterclockwise from the first axis and from -180 (exclusive) to 180.

Angles add up when directions are multiplied, except for full turns (`angle_mul`), and a direction
and its mirror image have opposite angles, except for full turns (`angle_mirror`). Which of two
leading directions has the larger angle is decided by the sign of their cross product
(`angle_lt_angle_iff`), and whether an angle is an eighth of a turn, or a multiple of it, by the
components (`angle_eighths_iff`).

The components are whole numbers, and so few angles are: by Niven's theorem an angle that is a whole
number of degrees is a multiple of 45 (`eighths_of_whole`).
-/

namespace Magnetometer.Direction

open Real (pi_pos pi_ne_zero)

/-! ## Directions as complex numbers -/

def zero : Direction := ⟨0, 0⟩

/-- The mirror image in the first axis. -/
def mirror (d : Direction) : Direction := ⟨d.x, -d.y⟩

noncomputable def toComplex (d : Direction) : ℂ := ⟨d.x, d.y⟩

@[simp] theorem re_toComplex (d : Direction) : d.toComplex.re = d.x := rfl

@[simp] theorem im_toComplex (d : Direction) : d.toComplex.im = d.y := rfl

theorem toComplex_mul (d e : Direction) : (d.mul e).toComplex = d.toComplex * e.toComplex := by
  apply Complex.ext <;> simp [mul]

theorem toComplex_eq_zero_iff {d : Direction} : d.toComplex = 0 ↔ d = zero := by
  rw [Complex.ext_iff, Direction.ext_iff, re_toComplex, im_toComplex, Complex.zero_re,
    Complex.zero_im, Int.cast_eq_zero, Int.cast_eq_zero]
  rfl

theorem toComplex_mirror (d : Direction) : d.mirror.toComplex = (starRingEnd ℂ) d.toComplex := by
  apply Complex.ext <;> simp [mirror]

theorem norm_pos {d : Direction} (h : d ≠ zero) : 0 < ‖d.toComplex‖ :=
  norm_pos_iff.mpr (mt toComplex_eq_zero_iff.mp h)

theorem x_eq (d : Direction) : (d.x : ℝ) = ‖d.toComplex‖ * Real.cos d.toComplex.arg :=
  (Complex.norm_mul_cos_arg d.toComplex).symm

theorem y_eq (d : Direction) : (d.y : ℝ) = ‖d.toComplex‖ * Real.sin d.toComplex.arg :=
  (Complex.norm_mul_sin_arg d.toComplex).symm

theorem mul_ne_zero {d e : Direction} (hd : d ≠ zero) (he : e ≠ zero) : d.mul e ≠ zero := by
  rw [Ne, ← toComplex_eq_zero_iff, toComplex_mul, mul_eq_zero, toComplex_eq_zero_iff,
    toComplex_eq_zero_iff]
  exact not_or.mpr ⟨hd, he⟩

theorem neg_ne_zero {d : Direction} (hd : d ≠ zero) : d.neg ≠ zero := by
  simp only [Ne, Direction.ext_iff, neg, zero, Int.neg_eq_zero] at hd ⊢
  exact hd

/-! ## Angles -/

/-- The angle in degrees. That of the zero vector is zero. -/
noncomputable def angle (d : Direction) : ℝ := d.toComplex.arg * 180 / Real.pi

theorem arg_toComplex (d : Direction) : d.toComplex.arg = d.angle * Real.pi / 180 := by
  unfold angle
  field_simp

theorem angle_eq_iff {d : Direction} {a : ℝ} :
    d.angle = a ↔ d.toComplex.arg = a * Real.pi / 180 := by
  rw [arg_toComplex, div_left_inj' (by norm_num), mul_left_inj' pi_ne_zero]

theorem neg_half_lt_angle (d : Direction) : -180 < d.angle := by
  rw [angle, lt_div_iff₀ pi_pos]
  linarith [d.toComplex.neg_pi_lt_arg]

theorem angle_le_half (d : Direction) : d.angle ≤ 180 := by
  rw [angle, div_le_iff₀ pi_pos]
  linarith [d.toComplex.arg_le_pi]

theorem angle_zero : zero.angle = 0 := by
  rw [angle_eq_iff, toComplex_eq_zero_iff.mpr rfl, Complex.arg_zero]
  ring

theorem angle_nonneg_iff {d : Direction} : 0 ≤ d.angle ↔ 0 ≤ d.y := by
  rw [angle, le_div_iff₀ pi_pos, zero_mul, mul_nonneg_iff_of_pos_right (by norm_num),
    Complex.arg_nonneg_iff, im_toComplex, Int.cast_nonneg_iff]

theorem angle_eq_half_iff {d : Direction} : d.angle = 180 ↔ d.x < 0 ∧ d.y = 0 := by
  rw [angle_eq_iff, mul_div_cancel_left₀ _ (by norm_num), Complex.arg_eq_pi_iff, re_toComplex,
    im_toComplex, Int.cast_lt_zero, Int.cast_eq_zero]

theorem angle_eq_zero_iff {d : Direction} : d.angle = 0 ↔ 0 ≤ d.x ∧ d.y = 0 := by
  rw [angle_eq_iff, zero_mul, zero_div, Complex.arg_eq_zero_iff, re_toComplex, im_toComplex,
    Int.cast_nonneg_iff, Int.cast_eq_zero]

theorem angle_eq_quarter_iff {d : Direction} : d.angle = 90 ↔ d.x = 0 ∧ 0 < d.y := by
  rw [angle_eq_iff, show (90 : ℝ) * Real.pi / 180 = Real.pi / 2 by ring,
    Complex.arg_eq_pi_div_two_iff, re_toComplex, im_toComplex, Int.cast_eq_zero, Int.cast_pos]

theorem angle_quarter : (⟨0, 1⟩ : Direction).angle = 90 :=
  angle_eq_quarter_iff.mpr ⟨rfl, by decide⟩

/-- To lead is to have an angle from nothing to less than half a turn. -/
theorem leading_iff {d : Direction} : d.Leading ↔ 0 ≤ d.angle ∧ d.angle < 180 := by
  rw [angle_nonneg_iff, d.angle_le_half.lt_iff_ne, Ne, angle_eq_half_iff]
  unfold Leading
  omega

theorem leading_neg {d : Direction} (h : ¬ d.Leading) : d.neg.Leading := by
  unfold Leading neg at *
  dsimp only
  omega

/-! ## Products, mirror images and multiples -/

/-- Angles that are the same up to full turns. -/
theorem angle_of_coe {d : Direction} {a : ℝ}
    (h : (d.toComplex.arg : Real.Angle) = ((a * Real.pi / 180 : ℝ) : Real.Angle)) :
    ∃ k : ℤ, d.angle = a + 360 * k := by
  obtain ⟨k, hk⟩ := Real.Angle.angle_eq_iff_two_pi_dvd_sub.mp h
  refine ⟨k, ?_⟩
  rw [angle_eq_iff, sub_eq_iff_eq_add'.mp hk]
  ring

theorem angle_mul {d e : Direction} (hd : d ≠ zero) (he : e ≠ zero) :
    ∃ k : ℤ, (d.mul e).angle = d.angle + e.angle + 360 * k := by
  apply angle_of_coe
  rw [add_mul, add_div, Real.Angle.coe_add, ← arg_toComplex, ← arg_toComplex, toComplex_mul]
  exact Complex.arg_mul_coe_angle (mt toComplex_eq_zero_iff.mp hd) (mt toComplex_eq_zero_iff.mp he)

/-- The opposite direction is half a turn away. -/
theorem angle_neg {d : Direction} (hd : d ≠ zero) :
    ∃ k : ℤ, d.neg.angle = d.angle + 180 + 360 * k := by
  have hback : (⟨-1, 0⟩ : Direction).angle = 180 := angle_eq_half_iff.mpr ⟨by decide, rfl⟩
  have hneg : d.neg = d.mul ⟨-1, 0⟩ := by simp [neg, mul]
  rw [hneg, ← hback]
  exact angle_mul hd (by decide)

theorem angle_mirror (d : Direction) : ∃ k : ℤ, d.mirror.angle = -d.angle + 360 * k := by
  apply angle_of_coe
  rw [neg_mul, neg_div, Real.Angle.coe_neg, ← arg_toComplex, toComplex_mirror]
  exact Complex.arg_conj_coe_angle d.toComplex

theorem angle_mirror_of_ne {d : Direction} (h : d.y ≠ 0) : d.mirror.angle = -d.angle := by
  have hne : d.toComplex.arg ≠ Real.pi := by
    rw [Ne, Complex.arg_eq_pi_iff, im_toComplex, Int.cast_eq_zero]
    exact fun hback => h hback.2
  rw [angle_eq_iff, toComplex_mirror, Complex.arg_conj, if_neg hne, arg_toComplex]
  ring

theorem angle_scale (d : Direction) {k : Int} (hk : 0 < k) :
    (⟨k * d.x, k * d.y⟩ : Direction).angle = d.angle := by
  have hscale :
      (⟨k * d.x, k * d.y⟩ : Direction).toComplex = ((k : ℝ) : ℂ) * d.toComplex := by
    apply Complex.ext <;> simp
  rw [angle, angle, hscale, Complex.arg_real_mul _ (Int.cast_pos.mpr hk)]

/-! ## Comparing angles -/

/-- Positive if the second direction is to the left of the first one. -/
def cross (d e : Direction) : Int := d.x * e.y - d.y * e.x

theorem cross_eq (d e : Direction) :
    (cross d e : ℝ) =
      ‖d.toComplex‖ * ‖e.toComplex‖ * Real.sin ((e.angle - d.angle) * Real.pi / 180) := by
  rw [sub_mul, sub_div, ← arg_toComplex, ← arg_toComplex, Real.sin_sub, cross]
  push_cast
  rw [d.x_eq, d.y_eq, e.x_eq, e.y_eq]
  ring

theorem angle_lt_angle_iff {d e : Direction} (hd : d ≠ zero) (he : e ≠ zero) (hd' : d.Leading)
    (he' : e.Leading) : d.angle < e.angle ↔ 0 < cross d e := by
  obtain ⟨hdlow, hdhigh⟩ := leading_iff.mp hd'
  obtain ⟨helow, hehigh⟩ := leading_iff.mp he'
  have hlengths : 0 < ‖d.toComplex‖ * ‖e.toComplex‖ := mul_pos (norm_pos hd) (norm_pos he)
  rw [← Int.cast_pos (R := ℝ), cross_eq, mul_pos_iff_of_pos_left hlengths]
  -- The angles differ by less than half a turn, where the sine has the sign of the difference.
  have hpi := pi_pos
  constructor
  · intro h
    apply Real.sin_pos_of_pos_of_lt_pi
    · have := mul_pos (sub_pos.mpr h) hpi
      linarith
    · have := mul_lt_mul_of_pos_right (show e.angle - d.angle < 180 by linarith) hpi
      linarith
  · intro h
    by_contra hle
    refine absurd h (not_lt.mpr (Real.sin_nonpos_of_nonpos_of_neg_pi_le ?_ ?_))
    · have := mul_nonneg (sub_nonneg.mpr (not_lt.mp hle)) hpi.le
      linarith
    · have := mul_lt_mul_of_pos_right (show -180 < e.angle - d.angle by linarith) hpi
      linarith

theorem angle_eq_angle_iff {d e : Direction} (hd : d ≠ zero) (he : e ≠ zero) (hd' : d.Leading)
    (he' : e.Leading) : d.angle = e.angle ↔ cross d e = 0 := by
  have hlt := angle_lt_angle_iff hd he hd' he'
  have hgt := angle_lt_angle_iff he hd he' hd'
  have hcross : cross e d = -cross d e := by
    unfold cross
    ring
  rw [hcross] at hgt
  rw [le_antisymm_iff, ← not_lt, ← not_lt, hlt, hgt]
  omega

/-! ## Eighths of a turn -/

/-- A number of full turns that comes to less than one is none. -/
theorem turns_eq_zero {k : ℤ} (hlow : -360 < 360 * (k : ℝ)) (hhigh : 360 * (k : ℝ) < 360) :
    k = 0 := by
  have hlow' : -360 < 360 * k := by exact_mod_cast hlow
  have hhigh' : 360 * k < 360 := by exact_mod_cast hhigh
  omega

theorem angle_diagonal : (⟨1, 1⟩ : Direction).angle = 45 := by
  obtain ⟨k, hk⟩ := angle_mul (d := ⟨1, 1⟩) (e := ⟨1, 1⟩) (by decide) (by decide)
  have hsquare : (mul ⟨1, 1⟩ ⟨1, 1⟩).angle = 90 :=
    angle_eq_quarter_iff.mpr ⟨by decide, by decide⟩
  obtain ⟨hlow, hhigh⟩ := leading_iff.mp (show Leading ⟨1, 1⟩ by decide)
  rw [hsquare] at hk
  rw [turns_eq_zero (k := k) (by linarith) (by linarith), Int.cast_zero] at hk
  linarith

theorem angle_antidiagonal : (⟨-1, 1⟩ : Direction).angle = 135 := by
  obtain ⟨k, hk⟩ := angle_mul (d := ⟨0, 1⟩) (e := ⟨1, 1⟩) (by decide) (by decide)
  have hproduct : mul ⟨0, 1⟩ ⟨1, 1⟩ = ⟨-1, 1⟩ := rfl
  obtain ⟨hlow, hhigh⟩ := leading_iff.mp (show Leading ⟨-1, 1⟩ by decide)
  rw [hproduct, angle_quarter, angle_diagonal] at hk
  rw [turns_eq_zero (k := k) (by linarith) (by linarith), Int.cast_zero] at hk
  linarith

/-- The imaginary part of the fourth power is the sine of four times the angle, up to the length. -/
theorem fourth_power_im (d : Direction) :
    4 * (d.x * d.y * (d.x ^ 2 - d.y ^ 2) : ℝ) =
      ‖d.toComplex‖ ^ 4 * Real.sin (4 * d.toComplex.arg) := by
  rw [show 4 * d.toComplex.arg = 2 * (2 * d.toComplex.arg) by ring, Real.sin_two_mul,
    Real.sin_two_mul, Real.cos_two_mul', d.x_eq, d.y_eq]
  ring

/-- The angles that are multiples of 45 degrees are those along the axes and halfway between. -/
theorem angle_eighths_iff (d : Direction) :
    (∃ k : ℤ, d.angle = 45 * k) ↔ d.x = 0 ∨ d.y = 0 ∨ |d.x| = |d.y| := by
  have hparts : d.x = 0 ∨ d.y = 0 ∨ |d.x| = |d.y| ↔
      4 * (d.x * d.y * (d.x ^ 2 - d.y ^ 2) : ℝ) = 0 := by
    rw [← sq_eq_sq_iff_abs_eq_abs]
    norm_cast
    simp only [mul_eq_zero, sub_eq_zero, or_assoc, OfNat.ofNat_ne_zero, false_or]
  rw [hparts, fourth_power_im]
  by_cases hd : d = zero
  · rw [hd, angle_zero]
    refine iff_of_true ⟨0, by simp⟩ ?_
    rw [toComplex_eq_zero_iff.mpr rfl, norm_zero, zero_pow (by decide), zero_mul]
  · rw [mul_eq_zero, or_iff_right (pow_ne_zero 4 (norm_pos hd).ne'), Real.sin_eq_zero_iff]
    refine exists_congr fun k => ?_
    rw [angle_eq_iff]
    constructor <;> intro h <;> linarith

/-! ## Whole degrees -/

theorem eq_zero_of_sq_eq_three_mul_sq {a b : ℤ} (h : a ^ 2 = 3 * b ^ 2) : b = 0 := by
  by_contra hb
  have hroot : Irrational (Real.sqrt 3) := by
    exact_mod_cast Nat.prime_three.irrational_sqrt
  apply hroot
  refine ⟨|(a : ℚ) / b|, ?_⟩
  have hb' : (b : ℝ) ≠ 0 := by exact_mod_cast hb
  have hsq : ((a : ℝ) / b) ^ 2 = 3 := by
    rw [div_pow, div_eq_iff (pow_ne_zero 2 hb')]
    exact_mod_cast h
  rw [← hsq, Real.sqrt_sq_eq_abs]
  push_cast
  rfl

theorem double_angle_re (d : Direction) :
    ((d.x ^ 2 + d.y ^ 2 : ℤ) : ℝ) * Real.cos (2 * d.toComplex.arg) =
      ((d.x ^ 2 - d.y ^ 2 : ℤ) : ℝ) := by
  have hlength : (d.x ^ 2 + d.y ^ 2 : ℝ) = ‖d.toComplex‖ ^ 2 := by
    rw [d.x_eq, d.y_eq, mul_pow, mul_pow, ← mul_add, Real.cos_sq_add_sin_sq, mul_one]
  push_cast
  rw [hlength, Real.cos_two_mul', d.x_eq, d.y_eq]
  ring

/-- A whole number of degrees is the angle of a direction only if it is a multiple of 45. The double
angle has a rational cosine, and by Niven's theorem there are five of these. -/
theorem eighths_of_whole {d : Direction} {n : ℤ} (h : d.angle = n) :
    ∃ k : ℤ, d.angle = 45 * k := by
  rw [angle_eighths_iff]
  by_cases hd : d = zero
  · exact .inl (congrArg Direction.x hd)
  have hlength : ((d.x ^ 2 + d.y ^ 2 : ℤ) : ℝ) ≠ 0 := by
    intro hsum
    have hsum' : d.x ^ 2 + d.y ^ 2 = 0 := by exact_mod_cast hsum
    have hx : d.x ^ 2 = 0 := by linarith [sq_nonneg d.x, sq_nonneg d.y]
    have hy : d.y ^ 2 = 0 := by linarith
    exact hd (Direction.ext (pow_eq_zero_iff two_ne_zero |>.mp hx)
      (pow_eq_zero_iff two_ne_zero |>.mp hy))
  have hcos := d.double_angle_re
  have hrational : ∃ q : ℚ, Real.cos (2 * d.toComplex.arg) = q := by
    refine ⟨(d.x ^ 2 - d.y ^ 2 : ℤ) / (d.x ^ 2 + d.y ^ 2 : ℤ), ?_⟩
    rw [Rat.cast_div, Rat.cast_intCast, Rat.cast_intCast, eq_div_iff hlength, ← hcos, mul_comm]
  have hangle : ∃ r : ℚ, 2 * d.toComplex.arg = r * Real.pi := by
    refine ⟨n / 90, ?_⟩
    rw [arg_toComplex, h]
    push_cast
    ring
  rcases niven hangle hrational with hvalue | hvalue | hvalue | hvalue | hvalue <;>
    rw [hvalue] at hcos <;> push_cast at hcos
  · have hx : (d.x : ℝ) ^ 2 = 0 := by linarith
    exact .inl (by simpa using hx)
  · have hy : (d.y : ℝ) ^ 2 = 3 * d.x ^ 2 := by linarith
    exact .inl (eq_zero_of_sq_eq_three_mul_sq (by exact_mod_cast hy))
  · have hxy : (d.x : ℝ) ^ 2 = d.y ^ 2 := by linarith
    exact .inr (.inr ((sq_eq_sq_iff_abs_eq_abs _ _).mp (by exact_mod_cast hxy)))
  · have hx : (d.x : ℝ) ^ 2 = 3 * d.y ^ 2 := by linarith
    exact .inr (.inl (eq_zero_of_sq_eq_three_mul_sq (by exact_mod_cast hx)))
  · have hy : (d.y : ℝ) ^ 2 = 0 := by linarith
    exact .inr (.inl (by simpa using hy))

end Magnetometer.Direction
