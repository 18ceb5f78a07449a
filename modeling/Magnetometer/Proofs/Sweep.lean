import Magnetometer.Proofs.Angle
import Magnetometer.Proofs.Bearing

/-!
# Bearings and angles

The sweep of a pointer measures an angle with whole numbers. Each turn adds the angle of the
direction to the way that the pointer has come (`Sweep.Tracks`), so after 180 turns the half turns
count the whole degrees of the angle.

The bearing that is found so need not be the angle, but it lies on the same side of every whole
degree (`SameDegree`), and nothing else can be seen of it in a heading. The same is relied on of any
bearing that is computed in another way, say with rounded numbers (`Faithful`): the headings are
the same (`degreesBy_eq_degrees`).
-/

namespace Magnetometer

/-! ## The way of the pointer -/

namespace Sweep

/-- The pointer has come a number of degrees. -/
structure Tracks (s : Sweep) (degrees : ℝ) : Prop where
  nonzero : s.rest ≠ .zero
  leading : s.rest.Leading
  way : 180 * s.halfTurns + s.rest.angle = degrees

theorem tracks_start : start.Tracks 0 where
  nonzero := by decide
  leading := by decide
  way := by
    have hone : Direction.one.angle = 0 := Direction.angle_eq_zero_iff.mpr ⟨by decide, rfl⟩
    show 180 * ((0 : ℕ) : ℝ) + Direction.one.angle = 0
    rw [hone, Nat.cast_zero]
    ring

theorem Tracks.turn {s : Sweep} {way : ℝ} (h : s.Tracks way) {d : Direction} (hd : d ≠ .zero)
    (hy : 0 ≤ d.y) : (s.turn d).Tracks (way + d.angle) := by
  obtain ⟨hrest, hleading, hway⟩ := h
  obtain ⟨hlow, hhigh⟩ := Direction.leading_iff.mp hleading
  have hdlow := Direction.angle_nonneg_iff.mpr hy
  have hdhigh := d.angle_le_half
  have hmoved := Direction.mul_ne_zero hrest hd
  obtain ⟨k, hk⟩ := Direction.angle_mul hrest hd
  unfold Sweep.turn
  dsimp only
  split
  next hlead =>
    obtain ⟨hlow', hhigh'⟩ := Direction.leading_iff.mp hlead
    refine ⟨hmoved, hlead, ?_⟩
    rw [hk, Direction.turns_eq_zero (k := k) (by linarith) (by linarith), ← hway]
    push_cast
    ring
  next hlead =>
    have hlead' := Direction.leading_neg hlead
    obtain ⟨hlow', hhigh'⟩ := Direction.leading_iff.mp hlead'
    refine ⟨Direction.neg_ne_zero hmoved, hlead', ?_⟩
    obtain ⟨j, hj⟩ := Direction.angle_neg hmoved
    -- Less than half a turn is left, so half a turn was taken off and nothing else.
    have hturns : k + j + 1 = 0 := by
      apply Direction.turns_eq_zero <;> push_cast <;> linarith
    have hturns' : (k : ℝ) + j = -1 := by
      exact_mod_cast (by omega : k + j = -1)
    rw [hj, hk, ← hway]
    push_cast
    linarith

theorem tracks_turns {d : Direction} (hd : d ≠ .zero) (hy : 0 ≤ d.y) (n : ℕ) :
    (turns d n).Tracks (n * d.angle) := by
  induction n with
  | zero =>
    rw [Nat.cast_zero, zero_mul]
    exact tracks_start
  | succ n ih =>
    rw [Nat.cast_succ, add_mul, one_mul]
    exact ih.turn hd hy

/-- Turning by the zero vector gets the pointer nowhere. -/
theorem turns_zero (n : ℕ) : turns .zero (n + 1) = ⟨0, .zero⟩ := by
  have hturn (s : Sweep) : s.turn .zero = ⟨s.halfTurns, .zero⟩ := by
    have hmul : s.rest.mul .zero = .zero := by simp [Direction.mul, Direction.zero]
    unfold Sweep.turn
    dsimp only
    rw [hmul, if_pos (by decide)]
  induction n with
  | zero => exact hturn start
  | succ n ih =>
    show (turns .zero (n + 1)).turn .zero = _
    rw [hturn, ih]

/-- After 180 turns the half turns are the whole degrees of the angle, and the pointer is back on
the first axis just if there is nothing more to the angle. -/
theorem degrees_of_turns {d : Direction} (hy : 0 ≤ d.y) :
    ((turns d 180).rest.y = 0 → d.angle = (turns d 180).halfTurns) ∧
      ((turns d 180).rest.y ≠ 0 →
        (turns d 180).halfTurns < d.angle ∧ d.angle < (turns d 180).halfTurns + 1) := by
  by_cases hd : d = .zero
  · rw [hd, turns_zero, Direction.angle_zero]
    exact ⟨fun _ => Nat.cast_zero.symm, fun h => absurd rfl h⟩
  · obtain ⟨hrest, hleading, hway⟩ := tracks_turns hd hy 180
    obtain ⟨hlow, hhigh⟩ := Direction.leading_iff.mp hleading
    push_cast at hway
    constructor
    · intro hzero
      have : (turns d 180).rest.angle = 0 :=
        Direction.angle_eq_zero_iff.mpr ⟨by unfold Direction.Leading at hleading; omega, hzero⟩
      linarith
    · intro hne
      have : (turns d 180).rest.angle ≠ 0 := fun h => hne (Direction.angle_eq_zero_iff.mp h).2
      have := lt_of_le_of_ne hlow this.symm
      constructor <;> linarith

end Sweep

namespace Heading

/-! ## Numbers between the same whole degrees -/

/-- Two numbers lie on the same side of every whole number, or on it. -/
def SameDegree (a b : ℝ) : Prop := ∀ n : ℤ, (a < n ↔ b < n) ∧ (n < a ↔ n < b)

namespace SameDegree

variable {a b : ℝ}

theorem refl (a : ℝ) : SameDegree a a := fun _ => ⟨Iff.rfl, Iff.rfl⟩

theorem neg (h : SameDegree a b) : SameDegree (-a) (-b) := by
  intro n
  obtain ⟨hbelow, habove⟩ := h (-n)
  push_cast at hbelow habove
  exact ⟨neg_lt.trans (habove.trans neg_lt), lt_neg.trans (hbelow.trans lt_neg)⟩

theorem ceil_eq (h : SameDegree a b) : ⌈a⌉ = ⌈b⌉ := by
  refine eq_of_forall_lt_iff fun n => ?_
  rw [Int.lt_ceil, Int.lt_ceil]
  exact (h n).2

theorem eq_of_whole {n : ℤ} (h : SameDegree a b) (hb : b = n) : a = n := by
  obtain ⟨hbelow, habove⟩ := h n
  refine le_antisymm (not_lt.mp fun hlt => ?_) (not_lt.mp fun hlt => ?_)
  · exact absurd (habove.mp hlt) (not_lt.mpr hb.le)
  · exact absurd (hbelow.mp hlt) (not_lt.mpr hb.ge)

/-- The middle of a degree stands for every number in it. -/
theorem middle {m : ℤ} (hlow : (m : ℝ) < b) (hhigh : b < m + 1) : SameDegree (m + 1 / 2) b := by
  intro n
  rcases le_or_gt n m with h | h
  · have h' : (n : ℝ) ≤ m := by exact_mod_cast h
    exact ⟨iff_of_false (by linarith) (by linarith), iff_of_true (by linarith) (by linarith)⟩
  · have h' : (m : ℝ) + 1 ≤ n := by exact_mod_cast h
    exact ⟨iff_of_true (by linarith) (by linarith), iff_of_false (by linarith) (by linarith)⟩

end SameDegree

theorem sameDegree_elevation {d : Direction} (hy : 0 ≤ d.y) :
    SameDegree (elevation d : ℝ) d.angle := by
  obtain ⟨hwhole, hbetween⟩ := Sweep.degrees_of_turns hy
  unfold elevation
  dsimp only
  split
  next h =>
    rw [hwhole h, Rat.cast_natCast]
    exact .refl _
  next h =>
    obtain ⟨hlow, hhigh⟩ := hbetween h
    have := SameDegree.middle (m := (Sweep.turns d 180).halfTurns) (by exact_mod_cast hlow)
      (by exact_mod_cast hhigh)
    push_cast at this ⊢
    exact this

theorem sameDegree_bearing (d : Direction) : SameDegree (bearing d : ℝ) d.angle := by
  unfold bearing
  split
  next h =>
    have hangle : d.angle = -d.mirror.angle := by
      rw [d.angle_mirror_of_ne (Int.ne_of_lt h), neg_neg]
    rw [Rat.cast_neg, hangle]
    exact (sameDegree_elevation (d := d.mirror) (by unfold Direction.mirror; dsimp only; omega)).neg
  next h => exact sameDegree_elevation (Int.not_lt.mp h)

/-! ## Computed bearings -/

/-- A direction that can come from two readings. -/
def InRange (d : Direction) : Prop := d.x.natAbs ≤ 65535 ∧ d.y.natAbs ≤ 65535

theorem inRange_horizontal (sample offset : Sample) : InRange (horizontal sample offset) := by
  have hx := sample.x.toInt_lt
  have hx' := sample.x.le_toInt
  have hy := sample.y.toInt_lt
  have hy' := sample.y.le_toInt
  have hox := offset.x.toInt_lt
  have hox' := offset.x.le_toInt
  have hoy := offset.y.toInt_lt
  have hoy' := offset.y.le_toInt
  unfold InRange horizontal
  dsimp only
  omega

/-- What is relied on of bearings that are computed with rounded numbers: they are exact where the
angle is an eighth of a turn or a multiple of it, and otherwise on the same side of every whole
degree as the angle. -/
structure Faithful (computed : Direction → ℝ) : Prop where
  exact_of_eighths : ∀ d, InRange d → (∃ k : ℤ, d.angle = 45 * k) → computed d = d.angle
  side_of_other : ∀ d, InRange d → (¬∃ k : ℤ, d.angle = 45 * k) → SameDegree (computed d) d.angle

/-- The heading that comes out if bearings are computed in a given way. -/
noncomputable def degreesBy (computed : Direction → ℝ) (sample offset : Sample) : ℕ :=
  ofBearing truncate (computed (horizontal sample offset))

theorem Faithful.sameDegree {computed : Direction → ℝ} (h : Faithful computed) {d : Direction}
    (hd : InRange d) : SameDegree (computed d) d.angle := by
  by_cases heighths : ∃ k : ℤ, d.angle = 45 * k
  · rw [h.exact_of_eighths d hd heighths]
    exact .refl _
  · exact h.side_of_other d hd heighths

theorem SameDegree.mem_half_turns {b : ℝ} {d : Direction} (h : SameDegree b d.angle) :
    -180 ≤ b ∧ b ≤ 180 := by
  constructor
  · have := (h (-180)).1
    push_cast at this
    exact not_lt.mp (mt this.mp (not_lt.mpr d.neg_half_lt_angle.le))
  · have := (h 180).2
    push_cast at this
    exact not_lt.mp (mt this.mp (not_lt.mpr d.angle_le_half))

/-- The bearings of this library can be relied on. -/
theorem faithful_bearing : Faithful fun d => bearing d where
  exact_of_eighths d _ := by
    rintro ⟨k, hk⟩
    rw [(sameDegree_bearing d).eq_of_whole (n := 45 * k) (by rw [hk]; push_cast; rfl), hk]
    push_cast
    rfl
  side_of_other d _ _ := sameDegree_bearing d

/-- A heading is the angle rounded up, with its sign changed and without full turns. -/
theorem degreesBy_eq {computed : Direction → ℝ} (h : Faithful computed) (sample offset : Sample) :
    (degreesBy computed sample offset : ℤ) = (-⌈(horizontal sample offset).angle⌉) % 360 := by
  have hsame := h.sameDegree (inRange_horizontal sample offset)
  obtain ⟨hlow, hhigh⟩ := hsame.mem_half_turns
  rw [degreesBy, ofBearing_eq truncate_of_nonneg hlow hhigh, hsame.ceil_eq]

theorem degrees_eq (sample offset : Sample) :
    (degrees sample offset : ℤ) = (-⌈(horizontal sample offset).angle⌉) % 360 := by
  have hsame := sameDegree_bearing (horizontal sample offset)
  obtain ⟨hlow, hhigh⟩ := hsame.mem_half_turns
  rw [← hsame.ceil_eq, Rat.ceil_cast]
  exact ofBearing_eq (fun _ _ => rfl) (by exact_mod_cast hlow) (by exact_mod_cast hhigh)

theorem degreesBy_eq_degrees {computed : Direction → ℝ} (h : Faithful computed)
    (sample offset : Sample) : degreesBy computed sample offset = degrees sample offset := by
  have := degreesBy_eq h sample offset
  have := degrees_eq sample offset
  omega

end Heading

end Magnetometer
