import Magnetometer.Axis
import Magnetometer.Numeral

/-!
# Samples

A `Sample` is one three-axis reading in raw counts; offsets have the same shape. A sample is
determined by its three components (`ext_axis`), so operations on samples are given axis by axis
through `ofAxes`.
-/

namespace Magnetometer

/-- One reading of the field, or an offset to be taken from readings, in raw counts. -/
@[ext]
structure Sample where
  x : Int16
  y : Int16
  z : Int16
  deriving DecidableEq

namespace Sample

/-- The sample with nothing on any axis. As a stored offset it stands for "never calibrated". -/
def zero : Sample := ⟨0, 0, 0⟩

instance : Inhabited Sample := ⟨zero⟩

def isZero (s : Sample) : Bool := s = zero

def along (s : Sample) : Axis → Int16
  | .x => s.x
  | .y => s.y
  | .z => s.z

def ofAxes (component : Axis → Int16) : Sample := ⟨component .x, component .y, component .z⟩

def toList (s : Sample) : List Int16 := Axis.all.map s.along

/-- The written form, `Sample { x: 1, y: -2, z: 3 }`. -/
def text (s : Sample) : List Char :=
  "Sample \x7b x: ".toList ++ Numeral.signed s.x.toInt ++
  ", y: ".toList ++ Numeral.signed s.y.toInt ++
  ", z: ".toList ++ Numeral.signed s.z.toInt ++ " \x7d".toList

@[simp] theorem along_ofAxes (component : Axis → Int16) (a : Axis) :
    (ofAxes component).along a = component a := by
  cases a <;> rfl

theorem ext_axis {s t : Sample} (h : ∀ a, s.along a = t.along a) : s = t :=
  Sample.ext (h .x) (h .y) (h .z)

theorem along_zero (a : Axis) : zero.along a = 0 := by
  cases a <;> rfl

theorem isZero_iff {s : Sample} : s.isZero = true ↔ s = zero := by
  simp [isZero]

end Sample

end Magnetometer
