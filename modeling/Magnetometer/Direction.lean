/-!
# Directions in the plane

A direction is an integer vector, read as a point of the plane. Multiplying two of them as complex
numbers adds their angles, so that the angle of a direction can be measured with integers alone:
let a pointer start along the first axis and turn it again and again by the direction, and count
how often it completes half a turn. After `n` turns the count is the whole part of `n` times the
angle, in half turns. With `n = 180` it is the angle in whole degrees.

To keep the count, the pointer is turned back by half a turn (negated) whenever it leaves the
leading half plane. If it ends on the first axis, the angle is a whole number of degrees.
-/

namespace Magnetometer

/-- A vector in the horizontal plane. -/
@[ext]
structure Direction where
  x : Int
  y : Int
  deriving DecidableEq

namespace Direction

/-- Along the first axis. -/
def one : Direction := ⟨1, 0⟩

/-- The product as complex numbers. Its angle is the sum of the angles. -/
def mul (d e : Direction) : Direction := ⟨d.x * e.x - d.y * e.y, d.x * e.y + d.y * e.x⟩

def neg (d : Direction) : Direction := ⟨-d.x, -d.y⟩

/-- Whether the angle is less than half a turn: above the first axis, or on it and not
backwards. -/
def Leading (d : Direction) : Prop := 0 < d.y ∨ d.y = 0 ∧ 0 ≤ d.x

instance (d : Direction) : Decidable d.Leading := inferInstanceAs (Decidable (_ ∨ _))

end Direction

/-- How far a pointer has come by turning: the half turns it has completed and where it stands
within the next one. -/
structure Sweep where
  halfTurns : Nat
  rest : Direction
  deriving DecidableEq

namespace Sweep

def start : Sweep := ⟨0, .one⟩

/-- The pointer turned by a direction of the leading half plane. -/
def turn (d : Direction) (s : Sweep) : Sweep :=
  let moved := s.rest.mul d
  -- Both the pointer and the direction lead, so their product has come round by less than a turn.
  if moved.Leading then ⟨s.halfTurns, moved⟩ else ⟨s.halfTurns + 1, moved.neg⟩

/-- The pointer after a number of turns by the same direction. -/
def turns (d : Direction) : Nat → Sweep
  | 0 => start
  | n + 1 => (turns d n).turn d

end Sweep

end Magnetometer
