/-!
# The three axes

Readings, offsets and their registers all come in threes. Everything that is said per axis in
this library is said once, for an arbitrary `Axis`.
-/

namespace Magnetometer

/-- A direction in which the field is measured. -/
inductive Axis
  | x
  | y
  | z
  deriving DecidableEq

namespace Axis

/-- The axes in the order in which they are read and stored. -/
def all : List Axis := [.x, .y, .z]

def index : Axis → Nat
  | .x => 0
  | .y => 1
  | .z => 2

/-- The capital letter that stands for the axis in register names. -/
def letter : Axis → Char
  | .x => 'X'
  | .y => 'Y'
  | .z => 'Z'

theorem mem_all (a : Axis) : a ∈ all := by
  cases a <;> decide

theorem index_lt (a : Axis) : a.index < 3 := by
  cases a <;> decide

end Axis

end Magnetometer
