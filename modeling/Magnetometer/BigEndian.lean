/-!
# Big-endian words

The sensor keeps every reading as two registers, the high byte at the lower address. `high` and
`low` take a signed word apart and `ofBytes` puts it together again. All three go through the
unsigned value of the word, so that each is a division, a remainder or a sum of naturals.

Main statements: `ofBytes_high_low`, `high_ofBytes` and `low_ofBytes`, which together say that
words and pairs of bytes correspond one to one.
-/

namespace Magnetometer

/-- Which byte of a word is meant. -/
inductive Half
  | high
  | low
  deriving DecidableEq

/-- How far the byte lies behind the first one of its word. -/
def Half.index : Half → Nat
  | .high => 0
  | .low => 1

namespace BigEndian

/-- The byte that stands first on the wire. -/
def high (word : Int16) : UInt8 := UInt8.ofNat (word.toUInt16.toNat / 256)

/-- The byte that stands second on the wire. -/
def low (word : Int16) : UInt8 := UInt8.ofNat (word.toUInt16.toNat % 256)

def byte (word : Int16) : Half → UInt8
  | .high => high word
  | .low => low word

/-- The signed word with the given bytes. -/
def ofBytes (hi lo : UInt8) : Int16 := (UInt16.ofNat (256 * hi.toNat + lo.toNat)).toInt16

theorem toNat_high (word : Int16) : (high word).toNat = word.toUInt16.toNat / 256 := by
  have := word.toUInt16.toNat_lt
  simp only [high, UInt8.toNat_ofNat']
  omega

theorem toNat_low (word : Int16) : (low word).toNat = word.toUInt16.toNat % 256 := by
  simp only [low, UInt8.toNat_ofNat']
  omega

theorem toNat_ofBytes (hi lo : UInt8) :
    (ofBytes hi lo).toUInt16.toNat = 256 * hi.toNat + lo.toNat := by
  have h₁ := hi.toNat_lt
  have h₂ := lo.toNat_lt
  simp only [ofBytes, UInt16.toUInt16_toInt16, UInt16.toNat_ofNat']
  omega

theorem ofBytes_high_low (word : Int16) : ofBytes (high word) (low word) = word := by
  have h : (ofBytes (high word) (low word)).toUInt16 = word.toUInt16 := by
    apply UInt16.toNat_inj.mp
    rw [toNat_ofBytes, toNat_high, toNat_low]
    omega
  rw [← Int16.toInt16_toUInt16 (ofBytes _ _), h, Int16.toInt16_toUInt16]

theorem high_ofBytes (hi lo : UInt8) : high (ofBytes hi lo) = hi := by
  apply UInt8.toNat_inj.mp
  have := lo.toNat_lt
  rw [toNat_high, toNat_ofBytes]
  omega

theorem low_ofBytes (hi lo : UInt8) : low (ofBytes hi lo) = lo := by
  apply UInt8.toNat_inj.mp
  have := lo.toNat_lt
  rw [toNat_low, toNat_ofBytes]
  omega

end BigEndian

end Magnetometer
