import Magnetometer.Error
import Magnetometer.Event
import Magnetometer.Phase
import Magnetometer.Sample

/-!
# Notices

What the library reports about its work. A `Notice` carries what is reported; `Notice.text` puts it
into words. Register names stand in a column of `nameWidth` characters, which longer names
overrun, so that what follows the name always has the same length and can be read from the end of
the line.

Main statements: `length_registerTail`, `length_dumpTail`.
-/

namespace Magnetometer

/-- How urgent a notice is. -/
inductive Level
  | debug
  | info
  | warn
  deriving DecidableEq

def Level.name : Level → String
  | .debug => "DEBUG"
  | .info => "INFO"
  | .warn => "WARN"

/-- Something worth reporting. -/
inductive Notice
  /-- A value is about to be written. -/
  | registerWrite (name : String) (address value : UInt8)
  | registerRead (name : String) (address value : UInt8)
  | registerDump (name : String) (address value : UInt8)
  | up (id : UInt16) (address : UInt8) (offset : Sample) (phase : Phase)
  | started (id : UInt16) (sample : Sample)
  | endedWithoutPass (id : UInt16)
  /-- An offset was found and stored. -/
  | calibrated (id : UInt16) (offset : Sample)
  | notStored (id : UInt16) (offset : Sample) (error : Error)
  | queueFull (event : Event)
  deriving DecidableEq

namespace Notice

def level : Notice → Level
  | .registerWrite .. | .registerRead .. | .registerDump .. => .debug
  | .up .. | .started .. | .calibrated .. => .info
  | .endedWithoutPass .. | .notStored .. | .queueFull .. => .warn

/-- The width of the column in which register names stand. -/
def nameWidth : Nat := 21

/-- What follows the name of a register written or read, ` (0x11) = 0xa0` without the blank. -/
def registerTail (address value : UInt8) : List Char :=
  "(0x".toList ++ Numeral.upperHexByte address ++ ") = 0x".toList ++ Numeral.hexByte value

/-- What follows the name of a register in a dump: its address, and its value in hexadecimal,
decimal and binary. -/
def dumpTail (address value : UInt8) : List Char :=
  "(0x".toList ++ Numeral.hexByte address ++ "): 0x".toList ++ Numeral.upperHexByte value ++
  " (".toList ++ Numeral.padLeft 3 (Numeral.decimal value.toNat) ++
  ") 0b".toList ++ Numeral.binaryByte value

def compassHead (id : UInt16) : List Char := "compass ".toList ++ Numeral.decimal id.toNat

def text : Notice → List Char
  | .registerWrite name address value =>
    "write_reg ".toList ++ Numeral.padRight nameWidth name.toList ++ registerTail address value
  | .registerRead name address value =>
    "read_reg ".toList ++ Numeral.padRight nameWidth name.toList ++ registerTail address value
  | .registerDump name address value =>
    Numeral.padRight nameWidth name.toList ++ dumpTail address value
  | .up id address offset phase =>
    compassHead id ++ " up at 0x".toList ++ Numeral.hexByte address ++
    ", offset ".toList ++ offset.text ++ ", ".toList ++ phase.name.toList
  | .started id sample => compassHead id ++ " calibration started at ".toList ++ sample.text
  | .endedWithoutPass id => compassHead id ++ " calibration ended without a running pass".toList
  | .calibrated id offset => compassHead id ++ " calibrated, offset ".toList ++ offset.text
  | .notStored id offset error =>
    compassHead id ++ " calibrated, offset ".toList ++ offset.text ++
    " not stored: ".toList ++ error.text
  | .queueFull event =>
    "event queue full, dropping ".toList ++ event.occurrence.name.toList ++
    " from ".toList ++ Numeral.decimal event.source.toNat

/-- The line of the log on which the notice stands. -/
def line (n : Notice) : List Char := n.level.name.toList ++ " ".toList ++ n.text

theorem length_registerTail (address value : UInt8) :
    (registerTail address value).length = 13 := rfl

theorem length_dumpTail (address value : UInt8) : (dumpTail address value).length = 29 := by
  unfold dumpTail
  simp only [List.length_append, Numeral.length_padLeft_decimal, Numeral.length_hexByte,
    Numeral.length_upperHexByte, Numeral.length_binaryByte]
  rfl

end Notice

end Magnetometer
