import Mathlib.Algebra.Order.Floor.Ring
import Mathlib.Data.Rat.Floor
import Mathlib.Tactic.Linarith
import Mathlib.Tactic.NormNum
import Magnetometer.Heading

/-!
# From bearings to headings

The last steps of a heading turn a signed bearing into whole degrees clockwise from north: a
negative bearing has a full turn added to it, the result is taken from a full turn and cut off to
whole degrees, and a full turn counts as none. Together they come to one formula (`ofBearing_eq`):
the bearing is rounded up, its sign is changed, and full turns do not count.

The steps are looked at on any ordered field in which numbers can be rounded, and for any way to
cut a number off that is right for numbers that are not negative. What is cut off here is never
negative, so it makes no difference whether one cuts off downwards or toward zero.

Main statement: `heading_of_bearing`.
-/

namespace Magnetometer.Heading

theorem clamp_eq {i : ℤ} (h : 0 ≤ i) (h' : i ≤ 65535) : (clamp i : ℤ) = i := by
  unfold clamp
  omega

section

variable {α : Type} [Ring α] [LinearOrder α] [FloorRing α]

/-- A number without its fraction. -/
def truncate (r : α) : ℤ := if 0 ≤ r then ⌊r⌋ else ⌈r⌉

theorem truncate_of_nonneg (r : α) (h : 0 ≤ r) : truncate r = ⌊r⌋ := if_pos h

end

section

variable {α : Type} [Field α] [LinearOrder α] [IsStrictOrderedRing α] [FloorRing α]

/-- What is cut off lies between nothing and a full turn. -/
theorem rest_mem {b : α} (hlow : -180 ≤ b) (hhigh : b ≤ 180) :
    0 ≤ 360 - unsigned b ∧ 360 - unsigned b ≤ 360 := by
  unfold unsigned
  split
  next h => constructor <;> linarith
  next h => constructor <;> linarith

theorem floor_rest (b : α) : ⌊360 - unsigned b⌋ = (if b < 0 then 0 else 360) - ⌈b⌉ := by
  have hneg : ⌊-b⌋ = -⌈b⌉ := Int.floor_neg
  unfold unsigned
  split
  next =>
    rw [show 360 - (b + 360) = -b by ring, hneg, zero_sub]
  next =>
    have hturn : ⌊360 + -b⌋ = 360 + ⌊-b⌋ := Int.floor_ofNat_add 360 (-b)
    rw [sub_eq_add_neg, hturn, hneg]
    rfl

theorem ceil_mem {b : α} (hlow : -180 ≤ b) (hhigh : b ≤ 180) : -180 ≤ ⌈b⌉ ∧ ⌈b⌉ ≤ 180 := by
  constructor
  · have h : ((-181 : ℤ) : α) < b := by
      push_cast
      linarith
    exact Int.lt_ceil.mpr h
  · exact Int.ceil_le.mpr (by exact_mod_cast hhigh)

/-- All the steps at once. -/
theorem ofBearing_eq {cut : α → ℤ} (hcut : ∀ r, 0 ≤ r → cut r = ⌊r⌋) {b : α}
    (hlow : -180 ≤ b) (hhigh : b ≤ 180) : (ofBearing cut b : ℤ) = (-⌈b⌉) % 360 := by
  have hrest := (rest_mem hlow hhigh).1
  obtain ⟨hceil, hceil'⟩ := ceil_mem hlow hhigh
  unfold ofBearing
  rw [Int.natCast_mod, hcut _ hrest, clamp_eq (Int.floor_nonneg.mpr hrest), floor_rest]
  · -- The full turn that was added or not makes no difference to the remainder.
    split <;> omega
  · rw [floor_rest]
    split <;> omega

/-- Let a bearing be no more than half a turn either way, and let `cut` be any way to cut off a
number that is right for numbers that are not negative. Then what is cut off is neither negative nor
more than a full turn, and the heading is the bearing rounded up, with its sign changed and without
full turns. It is below 360, and zero just for the bearings above -1 and not above 0. Of two
positive bearings, and of two that are not positive, the larger one does not have the larger
heading. -/
theorem heading_of_bearing {cut : α → ℤ} (hcut : ∀ r, 0 ≤ r → cut r = ⌊r⌋) {b : α}
    (hlow : -180 ≤ b) (hhigh : b ≤ 180) :
    (0 ≤ 360 - unsigned b ∧ 360 - unsigned b ≤ 360) ∧
      (ofBearing cut b : ℤ) = (-⌈b⌉) % 360 ∧
      ofBearing cut b < 360 ∧
      (ofBearing cut b = 0 ↔ -1 < b ∧ b ≤ 0) ∧
      ∀ c, b ≤ c → c ≤ 180 → (0 < b ∧ 0 < c ∨ b ≤ 0 ∧ c ≤ 0) →
        ofBearing cut c ≤ ofBearing cut b := by
  have hformula := ofBearing_eq hcut hlow hhigh
  obtain ⟨hceil, hceil'⟩ := ceil_mem hlow hhigh
  refine ⟨rest_mem hlow hhigh, hformula, ofBearing_lt cut b, ?_, ?_⟩
  · calc ofBearing cut b = 0 ↔ ⌈b⌉ = 0 := by omega
      _ ↔ -1 < b ∧ b ≤ 0 := by
        rw [Int.ceil_eq_iff, Int.cast_zero, zero_sub]
  · intro c hbc hc hside
    have hother := ofBearing_eq hcut (hlow.trans hbc) hc
    have hmono : ⌈b⌉ ≤ ⌈c⌉ := Int.ceil_mono hbc
    have hc' : ⌈c⌉ ≤ 180 := (ceil_mem (hlow.trans hbc) hc).2
    -- On each side the remainder is the negated number itself, or that number and one full turn.
    rcases hside with ⟨hpos, -⟩ | ⟨-, hneg⟩
    · have : 0 < ⌈b⌉ := Int.ceil_pos.mpr hpos
      omega
    · have : ⌈c⌉ ≤ 0 := Int.ceil_le.mpr (by rwa [Int.cast_zero])
      omega

end

/-- North is never reported as a full turn. Half a degree to the right of it is cut off to north,
and half a degree to the left is nearly a full turn. -/
theorem heading_of_bearing_near_north :
    ofBearing truncate (0 : ℚ) = 0 ∧ ofBearing truncate (-1 / 2 : ℚ) = 0 ∧
      ofBearing truncate (1 / 2 : ℚ) = 359 := by
  obtain ⟨-, -, -, hnorth, -⟩ := heading_of_bearing truncate_of_nonneg
    (b := (0 : ℚ)) (by norm_num) (by norm_num)
  obtain ⟨-, -, -, hright, -⟩ := heading_of_bearing truncate_of_nonneg
    (b := (-1 / 2 : ℚ)) (by norm_num) (by norm_num)
  obtain ⟨-, hleft, -⟩ := heading_of_bearing truncate_of_nonneg
    (b := (1 / 2 : ℚ)) (by norm_num) (by norm_num)
  refine ⟨hnorth.mpr (by norm_num), hright.mpr (by norm_num), ?_⟩
  have hceil : ⌈(1 / 2 : ℚ)⌉ = 1 := by norm_num
  rw [hceil] at hleft
  omega

end Magnetometer.Heading
