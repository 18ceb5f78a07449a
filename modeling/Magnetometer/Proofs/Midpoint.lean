import Mathlib.Data.Rat.Cast.Order
import Mathlib.Tactic.Linarith
import Magnetometer.Envelope

/-!
# Midpoints

The midpoint of an envelope is on each axis half the sum of its bounds, cut off toward zero. Twice
the midpoint is therefore the sum itself, or it lies one beside it on the side of zero
(`two_mul_midAxis`). All that can be said of a midpoint comes of that, by the sign of the sum.

The sum of two 16-bit numbers takes more than 16 bits, but not more than 32, and half of it takes 16
again. So the same is found in words of 32 bits (`midAxis_eq_wide`).

Main statement: `midpoint_exact`.
-/

namespace Magnetometer

namespace Envelope

/-! ## In 32-bit words -/

/-- The sum of two bounds as a word of 32 bits. -/
def wideSum (a b : Int16) : Int32 := a.toInt32 + b.toInt32

theorem toInt_wideSum (a b : Int16) : (wideSum a b).toInt = a.toInt + b.toInt := by
  have ha := a.toInt_lt
  have ha' := a.le_toInt
  have hb := b.toInt_lt
  have hb' := b.le_toInt
  rw [wideSum, Int32.toInt_add, Int16.toInt_toInt32, Int16.toInt_toInt32]
  apply Int.bmod_eq_of_le <;> omega

theorem toInt_half_wideSum (a b : Int16) :
    (wideSum a b / 2).toInt = (midAxis a b).toInt := by
  have hm := (midAxis a b).toInt_lt
  have hm' := (midAxis a b).le_toInt
  have htwo : (2 : Int32).toInt = 2 := rfl
  rw [Int32.toInt_div, toInt_wideSum, htwo, ← toInt_midAxis]
  apply Int.bmod_eq_of_le <;> omega

/-- Nothing is lost when half the sum is brought back to 16 bits. -/
theorem toInt32_midAxis (a b : Int16) : (midAxis a b).toInt32 = wideSum a b / 2 := by
  apply Int32.toInt_inj.mp
  rw [Int16.toInt_toInt32, toInt_half_wideSum]

theorem midAxis_eq_wide (a b : Int16) : midAxis a b = (wideSum a b / 2).toInt16 := by
  rw [← toInt32_midAxis, Int16.toInt16_toInt32]

/-! ## Where a midpoint lies -/

/-- Twice the midpoint is the sum of the bounds, but for one that is missing in the direction away
from zero. -/
theorem two_mul_midAxis (a b : Int16) :
    let sum := a.toInt + b.toInt
    let twice := 2 * (midAxis a b).toInt
    (0 ≤ sum ∧ twice ≤ sum ∧ sum ≤ twice + 1) ∨ (sum ≤ 0 ∧ sum ≤ twice ∧ twice ≤ sum + 1) := by
  intro sum twice
  have hmid : (midAxis a b).toInt = sum / 2 + if 0 ≤ sum ∨ (2 : Int) ∣ sum then 0 else 1 := by
    rw [toInt_midAxis, Int.tdiv_eq_ediv]
    rfl
  split at hmid <;> omega

theorem midAxis_comm (a b : Int16) : midAxis a b = midAxis b a := by
  rw [midAxis, midAxis, Int.add_comm]

theorem midAxis_between (a b : Int16) :
    Min.min a.toInt b.toInt ≤ (midAxis a b).toInt ∧
      (midAxis a b).toInt ≤ Max.max a.toInt b.toInt := by
  have := two_mul_midAxis a b
  omega

theorem midAxis_mono {a b c d : Int16} (hac : a ≤ c) (hbd : b ≤ d) :
    midAxis a b ≤ midAxis c d := by
  rw [Int16.le_iff_toInt_le] at hac hbd ⊢
  have := two_mul_midAxis a b
  have := two_mul_midAxis c d
  omega

/-- The midpoint is the exact half sum but for at most one half. -/
theorem abs_midAxis_sub_le (a b : Int16) :
    |((midAxis a b).toInt : ℚ) - ((a.toInt + b.toInt : ℤ) : ℚ) / 2| ≤ 1 / 2 := by
  have htwice := two_mul_midAxis a b
  have hlow : a.toInt + b.toInt - 1 ≤ 2 * (midAxis a b).toInt := by omega
  have hhigh : 2 * (midAxis a b).toInt ≤ a.toInt + b.toInt + 1 := by omega
  have hlow' : ((a.toInt + b.toInt : ℤ) : ℚ) - 1 ≤ 2 * ((midAxis a b).toInt : ℚ) := by
    exact_mod_cast hlow
  have hhigh' : 2 * ((midAxis a b).toInt : ℚ) ≤ ((a.toInt + b.toInt : ℤ) : ℚ) + 1 := by
    exact_mod_cast hhigh
  rw [abs_le]
  constructor <;> linarith

theorem toInt_neg_of_ne {a : Int16} (h : a ≠ -32768) : (-a).toInt = -a.toInt := by
  have hlt := a.toInt_lt
  have hle := a.le_toInt
  have hne : a.toInt ≠ -32768 := fun heq => h (Int16.toInt_inj.mp heq)
  rw [Int16.toInt_neg]
  apply Int.bmod_eq_of_le <;> omega

theorem toInt_midAxis_neg {a b : Int16} (ha : a ≠ -32768) (hb : b ≠ -32768) :
    (midAxis (-a) (-b)).toInt = -(midAxis a b).toInt := by
  rw [toInt_midAxis, toInt_midAxis, toInt_neg_of_ne ha, toInt_neg_of_ne hb, ← Int.neg_add,
    Int.neg_tdiv]

/-! ## Midpoints of envelopes -/

/-- The envelope with its bounds exchanged. -/
def swapped (e : Envelope) : Envelope := ⟨e.max, e.min⟩

/-- The envelope with both bounds negated on each axis. -/
def negated (e : Envelope) : Envelope :=
  ⟨.ofAxes fun axis => -e.min.along axis, .ofAxes fun axis => -e.max.along axis⟩

/-- On each axis the midpoint of an envelope, whichever of its bounds is the greater, is half their
sum, cut off toward zero. It is found in 32-bit words without an overflow of the sum and without a
loss when it is brought back. It lies between the bounds, and beside their exact half sum by one half
at most. It stays the same when the bounds are exchanged, does not fall when they rise, and is
negated when they are, unless one of them is the number that has no negative. -/
theorem midpoint_exact (e : Envelope) (axis : Axis) :
    let lo := e.min.along axis
    let hi := e.max.along axis
    let mid := e.midpoint.along axis
    mid.toInt = (lo.toInt + hi.toInt).tdiv 2 ∧
    ((wideSum hi lo).toInt = hi.toInt + lo.toInt ∧
      mid = (wideSum hi lo / 2).toInt16 ∧ mid.toInt32 = wideSum hi lo / 2) ∧
    (Min.min lo.toInt hi.toInt ≤ mid.toInt ∧ mid.toInt ≤ Max.max lo.toInt hi.toInt) ∧
    |(mid.toInt : ℚ) - ((lo.toInt + hi.toInt : ℤ) : ℚ) / 2| ≤ 1 / 2 ∧
    e.swapped.midpoint.along axis = mid ∧
    (∀ f : Envelope, lo ≤ f.min.along axis → hi ≤ f.max.along axis →
      mid ≤ f.midpoint.along axis) ∧
    (lo ≠ -32768 → hi ≠ -32768 → (e.negated.midpoint.along axis).toInt = -mid.toInt) := by
  intro lo hi mid
  have hmid : mid = midAxis lo hi := (e.along_midpoint axis).trans (midAxis_comm hi lo)
  have hmid' : mid = midAxis hi lo := e.along_midpoint axis
  refine ⟨?_, ⟨toInt_wideSum hi lo, ?_, ?_⟩, ?_, ?_, ?_, fun f hlo hhi => ?_, fun hlo hhi => ?_⟩
  · rw [hmid, toInt_midAxis]
  · rw [hmid', midAxis_eq_wide]
  · rw [hmid', toInt32_midAxis]
  · rw [hmid]
    exact midAxis_between lo hi
  · rw [hmid]
    exact abs_midAxis_sub_le lo hi
  · rw [along_midpoint, hmid]
    rfl
  · rw [along_midpoint, hmid']
    exact midAxis_mono hhi hlo
  · rw [along_midpoint, negated, Sample.along_ofAxes, Sample.along_ofAxes, hmid']
    exact toInt_midAxis_neg hhi hlo

/-- A negative sum that is odd, with the lower bound above the upper one. -/
theorem midpoint_exact_of_odd_sum :
    let e : Envelope := ⟨⟨0, 3, 0⟩, ⟨0, -8, 0⟩⟩
    let f : Envelope := ⟨⟨0, 3, 0⟩, ⟨0, 32767, 0⟩⟩
    e.midpoint.along .y = -2 ∧ (3 : Int16) ≠ -32768 ∧ (-8 : Int16) ≠ -32768 ∧
      (e.negated.midpoint.along .y).toInt = 2 ∧ (-8 : Int16) ≤ 32767 ∧
      e.midpoint.along .y ≤ f.midpoint.along .y := by
  intro e f
  obtain ⟨-, -, -, -, -, hmono, hneg⟩ := midpoint_exact e .y
  exact ⟨by decide, by decide, by decide, hneg (by decide) (by decide), by decide,
    hmono f (by decide) (by decide)⟩

end Envelope

end Magnetometer
