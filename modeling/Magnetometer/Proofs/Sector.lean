import Magnetometer.Proofs.Sweep

/-!
# Sectors of the compass

The axes and the lines halfway between them part the plane into eight sectors. In which of them a
direction lies is seen from its components, and it tells the heading up to 45 degrees; on a border
it tells the heading.

It is enough to look at the upper half of the plane, where the angle is compared with three
directions on the borders (`round_upper`). The lower half is its mirror image: there the angle of
the mirror image is rounded down where in the upper half the angle is rounded up.

Main statement: `heading_by_sector`.
-/

namespace Magnetometer

/-! ## The upper half of the plane -/

namespace Direction

variable {d : Direction} {n : ℤ}

theorem ne_zero_of_upper (h : 0 < d.y) : d ≠ zero := fun hzero => by
  rw [hzero] at h
  exact absurd h (by decide)

theorem angle_pos_of_upper (h : 0 < d.y) : 0 < d.angle := by
  refine lt_of_le_of_ne (angle_nonneg_iff.mpr h.le) fun hzero => ?_
  exact absurd (angle_eq_zero_iff.mp hzero.symm).2 h.ne'

theorem angle_lt_half_of_upper (h : 0 < d.y) : d.angle < 180 :=
  (leading_iff.mp (.inl h)).2

/-- The angle rounded down and rounded up, against a whole number of degrees at which there is a
border. -/
theorem round_border (h : 0 < d.y) (border : Direction) (hborder : 0 < border.y)
    (hn : border.angle = n) :
    (⌊d.angle⌋ < n ↔ 0 < cross d border) ∧ (⌈d.angle⌉ ≤ n ↔ 0 ≤ cross d border) ∧
      (cross d border = 0 → ⌊d.angle⌋ = n ∧ ⌈d.angle⌉ = n) := by
  have hd := ne_zero_of_upper h
  have hb := ne_zero_of_upper hborder
  refine ⟨?_, ?_, fun hzero => ?_⟩
  · rw [Int.floor_lt, ← hn, angle_lt_angle_iff hd hb (.inl h) (.inl hborder)]
  · have hcross : cross border d = -cross d border := by
      unfold cross
      ring
    rw [Int.ceil_le, ← hn, ← not_lt, angle_lt_angle_iff hb hd (.inl hborder) (.inl h), hcross]
    omega
  · have hon : d.angle = n :=
      ((angle_eq_angle_iff hd hb (.inl h) (.inl hborder)).mpr hzero).trans hn
    rw [hon]
    exact ⟨Int.floor_intCast n, Int.ceil_intCast n⟩

theorem round_upper (h : 0 < d.y) :
    (0 ≤ ⌊d.angle⌋ ∧ ⌊d.angle⌋ < 180 ∧ 0 < ⌈d.angle⌉ ∧ ⌈d.angle⌉ ≤ 180) ∧
      ((⌊d.angle⌋ < 45 ↔ d.y < d.x) ∧ (⌈d.angle⌉ ≤ 45 ↔ d.y ≤ d.x) ∧
        (d.y = d.x → ⌊d.angle⌋ = 45 ∧ ⌈d.angle⌉ = 45)) ∧
      ((⌊d.angle⌋ < 90 ↔ 0 < d.x) ∧ (⌈d.angle⌉ ≤ 90 ↔ 0 ≤ d.x) ∧
        (d.x = 0 → ⌊d.angle⌋ = 90 ∧ ⌈d.angle⌉ = 90)) ∧
      ((⌊d.angle⌋ < 135 ↔ -d.x < d.y) ∧ (⌈d.angle⌉ ≤ 135 ↔ -d.x ≤ d.y) ∧
        (d.y = -d.x → ⌊d.angle⌋ = 135 ∧ ⌈d.angle⌉ = 135)) := by
  have hpos := angle_pos_of_upper h
  have hlow : 0 ≤ ⌊d.angle⌋ := Int.floor_nonneg.mpr hpos.le
  have hhigh : ⌊d.angle⌋ < 180 :=
    Int.floor_lt.mpr (by exact_mod_cast angle_lt_half_of_upper h)
  have hlow' : 0 < ⌈d.angle⌉ := Int.ceil_pos.mpr hpos
  have hhigh' : ⌈d.angle⌉ ≤ 180 := Int.ceil_le.mpr (by exact_mod_cast d.angle_le_half)
  have hdiagonal := round_border (n := 45) h ⟨1, 1⟩ (by decide) (by exact_mod_cast angle_diagonal)
  have hquarter := round_border (n := 90) h ⟨0, 1⟩ (by decide) (by exact_mod_cast angle_quarter)
  have hantidiagonal :=
    round_border (n := 135) h ⟨-1, 1⟩ (by decide) (by exact_mod_cast angle_antidiagonal)
  unfold cross at hdiagonal hquarter hantidiagonal
  dsimp only at hdiagonal hquarter hantidiagonal
  omega

end Direction

/-! ## All directions -/

namespace Heading

/-- Let bearings be computed in any way that can be relied on. Then the heading is the one that this
library finds, and it lies in the sector that belongs to the components of the corrected reading;
the borders between the sectors have headings of their own. The components are differences of whole
numbers and have one bit more than the readings. -/
theorem heading_by_sector {computed : Direction → ℝ} (hcomputed : Faithful computed)
    (sample offset : Sample) :
    let dx := sample.x.toInt - offset.x.toInt
    let dy := sample.y.toInt - offset.y.toInt
    let h := degreesBy computed sample offset
    h = degrees sample offset ∧
      (-65535 ≤ dx ∧ dx ≤ 65535 ∧ -65535 ≤ dy ∧ dy ≤ 65535) ∧
      (dx = 0 ∧ dy = 0 ∨ dy = 0 ∧ 0 < dx → h = 0) ∧
      (0 < dy ∧ dy < dx → 315 ≤ h ∧ h ≤ 359) ∧
      (0 < dy ∧ dy = dx → h = 315) ∧
      (|dx| < dy → (dx = 0 → h = 270) ∧ (0 < dx → 270 ≤ h ∧ h ≤ 314) ∧
        (dx < 0 → 225 ≤ h ∧ h ≤ 269)) ∧
      (dx < 0 ∧ dy = -dx → h = 225) ∧
      (dx < 0 ∧ 0 < dy ∧ dy < -dx → 180 ≤ h ∧ h ≤ 224) ∧
      (dy = 0 ∧ dx < 0 → h = 180) ∧
      (dx < 0 ∧ dx < dy ∧ dy < 0 → 135 ≤ h ∧ h ≤ 179) ∧
      (dx < 0 ∧ dy = dx → h = 135) ∧
      (|dx| < -dy → (dx = 0 → h = 90) ∧ (dx < 0 → 90 ≤ h ∧ h ≤ 134) ∧
        (0 < dx → 45 ≤ h ∧ h ≤ 89)) ∧
      (0 < dx ∧ dy = -dx → h = 45) ∧
      (0 < dx ∧ -dx < dy ∧ dy < 0 → 0 ≤ h ∧ h ≤ 44) := by
  intro dx dy h
  obtain ⟨hx, hy⟩ := inRange_horizontal sample offset
  have hheading : (h : ℤ) = (-⌈(horizontal sample offset).angle⌉) % 360 :=
    degreesBy_eq hcomputed sample offset
  refine ⟨degreesBy_eq_degrees hcomputed sample offset, ?_, ?_⟩
  · change dx.natAbs ≤ 65535 at hx
    change dy.natAbs ≤ 65535 at hy
    omega
  rw [abs_lt, abs_lt]
  generalize hd : horizontal sample offset = d at hheading
  have hdx : dx = d.x := congrArg Direction.x hd
  have hdy : dy = d.y := congrArg Direction.y hd
  rw [hdx, hdy]
  rcases lt_trichotomy d.y 0 with hlower | haxis | hupper
  · have hmirror : d.angle = -d.mirror.angle := by
      rw [d.angle_mirror_of_ne hlower.ne, neg_neg]
    have hround := d.mirror.round_upper (Int.neg_pos.mpr hlower)
    rw [hmirror, Int.ceil_neg, neg_neg] at hheading
    unfold Direction.mirror at hround hheading
    dsimp only at hround hheading
    omega
  · rcases lt_or_ge d.x 0 with hback | hfront
    · rw [Direction.angle_eq_half_iff.mpr ⟨hback, haxis⟩] at hheading
      norm_num at hheading
      omega
    · rw [Direction.angle_eq_zero_iff.mpr ⟨hfront, haxis⟩] at hheading
      norm_num at hheading
      omega
  · have hround := d.round_upper hupper
    omega

/-- Differences that do not fit into a word, on a border and next to one. -/
theorem heading_by_sector_at_extremes :
    let computed : Direction → ℝ := fun d => bearing d
    degreesBy computed ⟨-32768, 32767, 0⟩ ⟨32767, -32768, 0⟩ = 225 ∧
      degreesBy computed ⟨32767, -1, 0⟩ ⟨-32768, 0, 0⟩ ≤ 44 := by
  intro computed
  obtain ⟨-, -, -, -, -, -, hborder, -⟩ :=
    heading_by_sector faithful_bearing ⟨-32768, 32767, 0⟩ ⟨32767, -32768, 0⟩
  obtain ⟨-, -, -, -, -, -, -, -, -, -, -, -, -, hnext⟩ :=
    heading_by_sector faithful_bearing ⟨32767, -1, 0⟩ ⟨-32768, 0, 0⟩
  exact ⟨hborder ⟨by decide, by decide⟩, (hnext ⟨by decide, by decide, by decide⟩).2⟩

end Heading

end Magnetometer
