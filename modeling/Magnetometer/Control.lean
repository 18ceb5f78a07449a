import Magnetometer.Flags

/-!
# Modes and control fields

The modes in which the device reports to be, and the fields that its control registers are made
of.
-/

namespace Magnetometer

/-- What the identification register of a genuine part holds. -/
def identification : UInt8 := 0xC4

/-- The bus address the device leaves the factory with. -/
def factoryAddress : UInt8 := 0x0E

inductive Mode
  | standby
  | activeRaw
  | active
  deriving DecidableEq

namespace Mode

/-- The mode told by the mode register, of which only the two lowest bits count. The fourth
pattern is not assigned; it is taken for active. -/
def ofBits (bits : UInt8) : Mode :=
  match (bits &&& 3).toNat with
  | 0 => .standby
  | 1 => .activeRaw
  | _ => .active

def code : Mode → UInt8
  | .standby => 0
  | .activeRaw => 1
  | .active => 2

def name : Mode → String
  | .standby => "Standby"
  | .activeRaw => "ActiveRaw"
  | .active => "Active"

end Mode

/-- The output rate in hertz at sixteenfold oversampling; each further step of oversampling
halves it. -/
inductive DataRate
  | hz80
  | hz40
  | hz20
  | hz10
  | hz5
  | hz2_5
  | hz1_25
  | hz0_63
  deriving DecidableEq

namespace DataRate

/-- All rates, the fastest first. -/
def all : List DataRate := [.hz80, .hz40, .hz20, .hz10, .hz5, .hz2_5, .hz1_25, .hz0_63]

def code : DataRate → UInt8
  | .hz80 => 0
  | .hz40 => 1
  | .hz20 => 2
  | .hz10 => 3
  | .hz5 => 4
  | .hz2_5 => 5
  | .hz1_25 => 6
  | .hz0_63 => 7

/-- Where the field begins in the first control register. -/
def shift : UInt8 := 5

end DataRate

/-- How many conversions are averaged into one reading. -/
inductive Oversampling
  | os16
  | os32
  | os64
  | os128
  deriving DecidableEq

namespace Oversampling

def all : List Oversampling := [.os16, .os32, .os64, .os128]

def code : Oversampling → UInt8
  | .os16 => 0
  | .os32 => 1
  | .os64 => 2
  | .os128 => 3

/-- Where the field begins in the first control register. -/
def shift : UInt8 := 3

end Oversampling

end Magnetometer
