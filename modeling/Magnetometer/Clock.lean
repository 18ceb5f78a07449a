/-!
# Ticks

Time is counted in 64-bit ticks. Sums of ticks stop at the largest count instead of starting over,
and a moment is past a limit only when it lies strictly beyond it.

Main statement: `saturatingAdd_lt_iff` relates that test to the unbounded sum: no clock reading
lies beyond the largest count, so nothing is lost by stopping there.
-/

namespace Magnetometer.Ticks

/-- The largest count. -/
def last : UInt64 := 0xFFFFFFFFFFFFFFFF

/-- The sum of two counts, or the largest count if the sum is out of range. -/
def saturatingAdd (a b : UInt64) : UInt64 := if a.toNat + b.toNat < UInt64.size then a + b else last

def add? (a b : UInt64) : Option UInt64 :=
  if a.toNat + b.toNat < UInt64.size then some (a + b) else none

theorem toNat_saturatingAdd (a b : UInt64) :
    (saturatingAdd a b).toNat = min (a.toNat + b.toNat) (UInt64.size - 1) := by
  unfold saturatingAdd
  split
  next h =>
    rw [UInt64.toNat_add, Nat.mod_eq_of_lt h]
    omega
  next h =>
    show UInt64.size - 1 = _
    omega

/-- The saturated sum is passed exactly when the unbounded one is. -/
theorem saturatingAdd_lt_iff (a b now : UInt64) :
    saturatingAdd a b < now ↔ a.toNat + b.toNat < now.toNat := by
  have : now.toNat < UInt64.size := now.toNat_lt
  rw [UInt64.lt_iff_toNat_lt, toNat_saturatingAdd]
  omega

end Magnetometer.Ticks
