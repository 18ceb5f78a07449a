import Magnetometer.Sample

/-!
# Envelopes

While a calibration pass runs, the extremes met on each axis are kept in an `Envelope`. Turning
the sensor through all directions moves the reading round a sphere whose centre is the constant
disturbance of its surroundings, so the `midpoint` of the extremes is the offset to correct by.

Main statements: `min_along_widen` and `max_along_widen`, which say what one sample does to an axis,
and `toInt_midAxis`, by which the midpoint is the exact half sum cut off toward zero.
-/

namespace Magnetometer

/-- The greater of two words is one of them, and only what bounds both bounds it. -/
instance lawfulOrderMaxInt16 : Std.LawfulOrderMax Int16 where
  max_eq_or a b := by
    show (if a ≤ b then b else a) = a ∨ (if a ≤ b then b else a) = b
    split
    · exact .inr rfl
    · exact .inl rfl
  max_le_iff a b c := by
    show (if a ≤ b then b else a) ≤ c ↔ a ≤ c ∧ b ≤ c
    split
    next h => exact ⟨fun hb => ⟨Int16.le_trans h hb, hb⟩, And.right⟩
    next h =>
      have hba := (Int16.le_total a b).resolve_left h
      exact ⟨fun ha => ⟨ha, Int16.le_trans hba ha⟩, And.left⟩

/-- The extremes met on each axis. -/
@[ext]
structure Envelope where
  min : Sample
  max : Sample
  deriving DecidableEq

namespace Envelope

/-- Half the sum of two bounds, cut off toward zero. The sum is taken of integers and cannot
overflow. -/
def midAxis (a b : Int16) : Int16 := Int16.ofInt ((a.toInt + b.toInt).tdiv 2)

def empty : Envelope := ⟨.zero, .zero⟩

instance : Inhabited Envelope := ⟨empty⟩

def seeded (s : Sample) : Envelope := ⟨s, s⟩

/-- The envelope widened, where needed, to hold a further sample. -/
def widen (e : Envelope) (s : Sample) : Envelope where
  min := .ofAxes fun a => Min.min (e.min.along a) (s.along a)
  max := .ofAxes fun a => Max.max (e.max.along a) (s.along a)

/-- The centre of the envelope. -/
def midpoint (e : Envelope) : Sample := .ofAxes fun a => midAxis (e.max.along a) (e.min.along a)

/-- The written form, `Envelope { min: Sample { .. }, max: Sample { .. } }`. -/
def text (e : Envelope) : List Char :=
  "Envelope \x7b min: ".toList ++ e.min.text ++ ", max: ".toList ++ e.max.text ++ " \x7d".toList

@[simp] theorem min_along_widen (e : Envelope) (s : Sample) (a : Axis) :
    (e.widen s).min.along a = Min.min (e.min.along a) (s.along a) := by
  simp [widen]

@[simp] theorem max_along_widen (e : Envelope) (s : Sample) (a : Axis) :
    (e.widen s).max.along a = Max.max (e.max.along a) (s.along a) := by
  simp [widen]

@[simp] theorem along_midpoint (e : Envelope) (a : Axis) :
    e.midpoint.along a = midAxis (e.max.along a) (e.min.along a) := by
  simp [midpoint]

/-- The half sum of two 16-bit numbers is again a 16-bit number. -/
theorem toInt_midAxis (a b : Int16) : (midAxis a b).toInt = (a.toInt + b.toInt).tdiv 2 := by
  have ha := a.toInt_lt
  have ha' := a.le_toInt
  have hb := b.toInt_lt
  have hb' := b.le_toInt
  have hsign : Int.sign 2 = 1 := rfl
  apply Int16.toInt_ofInt_of_le <;> rw [Int.tdiv_eq_ediv, hsign] <;> split <;> omega

end Envelope

end Magnetometer
