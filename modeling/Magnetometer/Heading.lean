import Magnetometer.Direction
import Magnetometer.Sample

/-!
# Headings

A heading is the direction in which the compass points, in whole degrees clockwise from north. It
is found from the horizontal components of a reading, corrected by the offset.

The `bearing` is the angle of the corrected reading, counterclockwise and signed. Only its whole
degrees matter, and whether it is whole, so it is given exactly where it is whole and as the middle
of its degree where it is not. The remaining steps are made on any kind of ordered numbers of
which the whole part can be taken.
-/

namespace Magnetometer.Heading

/-- The angle of a direction of the leading half plane: its whole degrees, and half a degree more if
it is not whole. -/
def elevation (d : Direction) : Rat :=
  let sweep := Sweep.turns d 180
  if sweep.rest.y = 0 then sweep.halfTurns else sweep.halfTurns + 1 / 2

/-- The signed angle of a direction, in degrees, from -180 (exclusive) to 180. The zero vector
counts as pointing along the first axis. -/
def bearing (d : Direction) : Rat :=
  if d.y < 0 then -elevation ⟨d.x, -d.y⟩ else elevation d

/-- The nearest unsigned 16-bit number. -/
def clamp (i : Int) : Nat := min i.toNat 65535

section

variable {α : Type} [OfNat α 0] [OfNat α 360] [Add α] [Sub α] [LT α] [DecidableLT α]

/-- A signed angle as one from 0 to 360. -/
def unsigned (b : α) : α := if b < 0 then b + 360 else b

/-- The heading that belongs to a signed angle: the angle is counted clockwise and cut off to whole
degrees, and the full turn is the same as none. -/
def ofBearing (floor : α → Int) (b : α) : Nat := clamp (floor (360 - unsigned b)) % 360

theorem ofBearing_lt (floor : α → Int) (b : α) : ofBearing floor b < 360 := Nat.mod_lt _ (by omega)

end

/-- The horizontal part of a reading corrected by an offset. The differences are taken of integers
and cannot overflow. -/
def horizontal (sample offset : Sample) : Direction :=
  ⟨sample.x.toInt - offset.x.toInt, sample.y.toInt - offset.y.toInt⟩

/-- The heading in whole degrees, clockwise from north, from 0 to 359. -/
def degrees (sample offset : Sample) : Nat :=
  ofBearing Rat.floor (bearing (horizontal sample offset))

end Magnetometer.Heading
