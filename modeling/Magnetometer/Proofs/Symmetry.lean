import Magnetometer.Proofs.Sweep

/-!
# Symmetries of the heading

To turn the corrected reading by a quarter, to make it longer, or to mirror it has a definite effect
on its angle, and so on the heading. What is rounded may get in the way of the last one: a heading
and its mirror image leave one degree of the full turn out, unless the angle is whole. As the
components are whole numbers, only the angles along the axes and halfway between are
(`Direction.ceil_angle`).

Main statement: `heading_symmetries`.
-/

namespace Magnetometer

namespace Direction

theorem ceil_angle_rotate {d : Direction} (hd : d ≠ zero) :
    ∃ k : ℤ, ⌈(⟨-d.y, d.x⟩ : Direction).angle⌉ = ⌈d.angle⌉ + 90 + 360 * k := by
  have hrotate : (⟨-d.y, d.x⟩ : Direction) = d.mul ⟨0, 1⟩ := by simp [mul]
  obtain ⟨k, hk⟩ := angle_mul hd (show (⟨0, 1⟩ : Direction) ≠ zero by decide)
  refine ⟨k, ?_⟩
  have hsum : d.angle + 90 + 360 * k = d.angle + ((90 + 360 * k : ℤ) : ℝ) := by
    push_cast
    ring
  rw [hrotate, hk, angle_quarter, hsum, Int.ceil_add_intCast, add_assoc]

theorem ceil_angle_mirror (d : Direction) :
    ∃ k : ℤ, ⌈d.mirror.angle⌉ = -⌊d.angle⌋ + 360 * k := by
  obtain ⟨k, hk⟩ := d.angle_mirror
  refine ⟨k, ?_⟩
  have hsum : -d.angle + 360 * k = -d.angle + ((360 * k : ℤ) : ℝ) := by push_cast; rfl
  rw [hk, hsum, Int.ceil_add_intCast, Int.ceil_neg]

/-- Rounding makes a difference of one degree, except for the angles along the axes and halfway
between. -/
theorem ceil_angle (d : Direction) :
    ⌈d.angle⌉ =
      if d.x = 0 ∨ d.y = 0 ∨ |d.x| = |d.y| then ⌊d.angle⌋ else ⌊d.angle⌋ + 1 := by
  split
  next h =>
    obtain ⟨k, hk⟩ := d.angle_eighths_iff.mpr h
    have hwhole : d.angle = ((45 * k : ℤ) : ℝ) := by
      rw [hk]
      push_cast
      rfl
    rw [hwhole, Int.ceil_intCast, Int.floor_intCast]
  next h =>
    rw [Int.ceil_eq_floor_add_one_iff_notMem]
    rintro ⟨n, hn⟩
    exact h (d.angle_eighths_iff.mp (eighths_of_whole hn.symm))

end Direction

namespace Heading

/-- Let bearings be computed in any way that can be relied on, and let the corrected reading not be
zero in both components. If that of another reading, with whatever offset, is the first one turned
to the left by a quarter, its heading is 90 degrees less; if it is a multiple of the first one, it
has the same heading; and if it is the mirror image, the two headings come to a full turn less one
degree, or to no turn or a full one along the axes and halfway between. -/
theorem heading_symmetries {computed : Direction → ℝ} (hcomputed : Faithful computed)
    (sample offset : Sample) :
    let dx := sample.x.toInt - offset.x.toInt
    let dy := sample.y.toInt - offset.y.toInt
    let h := degreesBy computed sample offset
    ¬(dx = 0 ∧ dy = 0) →
      h = degrees sample offset ∧
      ∀ sample' offset' : Sample,
        let dx' := sample'.x.toInt - offset'.x.toInt
        let dy' := sample'.y.toInt - offset'.y.toInt
        let h' := degreesBy computed sample' offset'
        (dx' = -dy ∧ dy' = dx → h' = (h + 270) % 360) ∧
        (∀ k : ℤ, 0 < k → dx' = k * dx ∧ dy' = k * dy → h' = h) ∧
        (dx' = dx ∧ dy' = -dy →
          if dx = 0 ∨ dy = 0 ∨ |dx| = |dy| then (h + h') % 360 = 0 else h + h' = 359) := by
  intro dx dy h hne
  have hheading : (h : ℤ) = (-⌈(horizontal sample offset).angle⌉) % 360 :=
    degreesBy_eq hcomputed sample offset
  refine ⟨degreesBy_eq_degrees hcomputed sample offset, ?_⟩
  intro sample' offset' dx' dy' h'
  have hheading' : (h' : ℤ) = (-⌈(horizontal sample' offset').angle⌉) % 360 :=
    degreesBy_eq hcomputed sample' offset'
  have hd' : horizontal sample' offset' = ⟨dx', dy'⟩ := rfl
  generalize hd : horizontal sample offset = d at hheading
  have hdx : dx = d.x := congrArg Direction.x hd
  have hdy : dy = d.y := congrArg Direction.y hd
  have hzero : d ≠ .zero := fun hzero => hne (by rw [hdx, hdy, hzero]; exact ⟨rfl, rfl⟩)
  rw [hd'] at hheading'
  rw [hdx, hdy]
  refine ⟨?_, ?_, ?_⟩
  · rintro ⟨hx, hy⟩
    obtain ⟨k, hk⟩ := Direction.ceil_angle_rotate hzero
    rw [hx, hy, hk] at hheading'
    omega
  · rintro k hpos ⟨hx, hy⟩
    rw [hx, hy, d.angle_scale hpos, ← hheading] at hheading'
    exact_mod_cast hheading'
  · rintro ⟨hx, hy⟩
    obtain ⟨k, hk⟩ := d.ceil_angle_mirror
    have hmirror : (⟨d.x, -d.y⟩ : Direction) = d.mirror := rfl
    rw [hx, hy, hmirror, hk] at hheading'
    rw [d.ceil_angle] at hheading
    split
    next heighths =>
      rw [if_pos heighths] at hheading
      omega
    next heighths =>
      rw [if_neg heighths] at hheading
      omega

/-- A reading with heading 333: turned by a quarter far away from the offset it had before, made as
long as a reading can be, and mirrored. -/
theorem heading_symmetries_of_two_to_one :
    let computed : Direction → ℝ := fun d => bearing d
    degrees ⟨2, 1, 0⟩ .zero = 333 ∧
      degreesBy computed ⟨-20001, 30002, 7⟩ ⟨-20000, 30000, 9⟩ = 243 ∧
      degreesBy computed ⟨32767, 30000, 0⟩ ⟨-27233, 0, 0⟩ = 333 ∧
      degreesBy computed ⟨2, -1, 0⟩ .zero = 26 := by
  intro computed
  have hdegrees : degrees ⟨2, 1, 0⟩ .zero = 333 := by decide +kernel
  obtain ⟨hsame, hsymmetries⟩ := heading_symmetries faithful_bearing ⟨2, 1, 0⟩ .zero (by decide)
  rw [hdegrees] at hsame
  have hquarter : degreesBy computed ⟨-20001, 30002, 7⟩ ⟨-20000, 30000, 9⟩ =
      (degreesBy computed ⟨2, 1, 0⟩ .zero + 270) % 360 :=
    (hsymmetries ⟨-20001, 30002, 7⟩ ⟨-20000, 30000, 9⟩).1 ⟨by decide, by decide⟩
  have hlonger : degreesBy computed ⟨32767, 30000, 0⟩ ⟨-27233, 0, 0⟩ =
      degreesBy computed ⟨2, 1, 0⟩ .zero :=
    (hsymmetries ⟨32767, 30000, 0⟩ ⟨-27233, 0, 0⟩).2.1 30000 (by decide) ⟨by decide, by decide⟩
  have hmirror : degreesBy computed ⟨2, 1, 0⟩ .zero + degreesBy computed ⟨2, -1, 0⟩ .zero = 359 :=
    (if_neg (by decide)).mp ((hsymmetries ⟨2, -1, 0⟩ .zero).2.2 ⟨by decide, by decide⟩)
  rw [hsame] at hquarter hlonger hmirror
  exact ⟨hdegrees, hquarter, hlonger, Nat.add_left_cancel hmirror⟩

end Heading

end Magnetometer
