import Magnetometer.Numeral

/-!
# Named bits

Some registers are sets of flags. A `FlagTable` names the bits of such a register; a set of flags
is a byte, read through its table. Bits without a name may be refused (`ofBits?`), dropped
(`truncate`) or kept, and then they show in the written form.
-/

namespace Magnetometer

/-- A named bit, or several bits that go together. -/
structure Flag where
  name : String
  bits : UInt8
  deriving DecidableEq

namespace Flag

/-- The sensor resets itself before each reading. -/
def autoReset : Flag := ⟨"AUTO_MRST_EN", 0x80⟩

/-- Readings are given out uncorrected. -/
def raw : Flag := ⟨"RAW", 0x20⟩

/-- The sensor is reset once. -/
def reset : Flag := ⟨"MAG_RST", 0x10⟩

/-- Only the high byte of each reading is given out. -/
def fastRead : Flag := ⟨"FAST_READ", 0x04⟩

/-- A single reading is made at once. -/
def trigger : Flag := ⟨"TRIGGER", 0x02⟩

/-- Readings are made continuously. -/
def active : Flag := ⟨"ACTIVE", 0x01⟩

end Flag

/-- The names of the bits of a register. -/
structure FlagTable where
  title : String
  flags : List Flag

namespace FlagTable

/-- Which data are new (`DR`) and which were overwritten unread (`OW`). -/
def dataStatus : FlagTable where
  title := "DataStatus"
  flags :=
    [⟨"ZYXOW", 0x80⟩, ⟨"ZOW", 0x40⟩, ⟨"YOW", 0x20⟩, ⟨"XOW", 0x10⟩,
      ⟨"ZYXDR", 0x08⟩, ⟨"ZDR", 0x04⟩, ⟨"YDR", 0x02⟩, ⟨"XDR", 0x01⟩]

/-- The flags of the first control register, beside its rate and oversampling fields. -/
def control1 : FlagTable where
  title := "CtrlReg1Flags"
  flags := [.fastRead, .trigger, .active]

/-- The flags of the second control register. -/
def control2 : FlagTable where
  title := "CtrlReg2Flags"
  flags := [.autoReset, .raw, .reset]

def tables : List FlagTable := [dataStatus, control1, control2]

/-- The bits that have a name. -/
def known (t : FlagTable) : UInt8 := t.flags.foldl (fun bits flag => bits ||| flag.bits) 0

/-- The bits, provided that all of them have a name. -/
def ofBits? (t : FlagTable) (bits : UInt8) : Option UInt8 :=
  if bits &&& ~~~t.known = 0 then some bits else none

/-- The bits that have a name, the others dropped. -/
def truncate (t : FlagTable) (bits : UInt8) : UInt8 := bits &&& t.known

/-- The named bits that are not set. -/
def complement (t : FlagTable) (bits : UInt8) : UInt8 := t.truncate (~~~bits)

def find? (t : FlagTable) (name : String) : Option Flag :=
  t.flags.find? fun flag => flag.name = name

/-- The flags that are set, in the order of the table. -/
def flagsIn (t : FlagTable) (bits : UInt8) : List Flag :=
  t.flags.filter fun flag => bits &&& flag.bits = flag.bits

/-- What stands for each part of a set: the names, then the unnamed bits in hexadecimal. -/
def words (t : FlagTable) (bits : UInt8) : List (List Char) :=
  (t.flagsIn bits).map (·.name.toList) ++
    if bits &&& ~~~t.known = 0 then [] else ["0x".toList ++ Numeral.shortHex (bits &&& ~~~t.known)]

/-- The written form, `DataStatus(ZYXOW | XDR)`; the empty set is written as zero. -/
def text (t : FlagTable) (bits : UInt8) : List Char :=
  t.title.toList ++ "(".toList ++
    (if bits = 0 then "0x0".toList else " | ".toList.intercalate (t.words bits)) ++ ")".toList

end FlagTable

/-! ## Sets of flags as bytes -/

namespace Flags

/-- Whether all of the second set's flags are in the first. -/
def contains (a b : UInt8) : Bool := a &&& b = b

def intersects (a b : UInt8) : Bool := a &&& b ≠ 0

/-- The flags of the first set that are not in the second. -/
def difference (a b : UInt8) : UInt8 := a &&& ~~~b

/-- The first set with the flags of the second put in or taken out. -/
def assign (a b : UInt8) (present : Bool) : UInt8 := if present then a ||| b else difference a b

end Flags

end Magnetometer
