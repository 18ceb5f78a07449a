import Magnetometer.Numeral

/-!
# The bus

The sensor hangs on a two-wire bus. A transaction addresses one device and consists of parts, each
of which sends bytes or asks for some. The device answers the parts it accepts; it may refuse
the transaction with a `Fault`.

`Bus` is the class of everything on which transactions can be made, `Board` that of a bus together
with the data-ready line of the sensor. Nothing is assumed of either: which transactions fail, and
how, is up to the instance.
-/

namespace Magnetometer

/-- What a device failed to acknowledge. -/
inductive Unacknowledged
  | address
  | data
  | unknown
  deriving DecidableEq

/-- Why a transaction failed. -/
inductive Fault
  | bus
  | arbitrationLoss
  | noAcknowledge (source : Unacknowledged)
  | overrun
  | other
  deriving DecidableEq

def Unacknowledged.name : Unacknowledged → String
  | .address => "Address"
  | .data => "Data"
  | .unknown => "Unknown"

def Fault.text : Fault → List Char
  | .bus => "Bus".toList
  | .arbitrationLoss => "ArbitrationLoss".toList
  | .noAcknowledge source => "NoAcknowledge(".toList ++ source.name.toList ++ ")".toList
  | .overrun => "Overrun".toList
  | .other => "Other".toList

/-- Why an input line could not be read. -/
inductive PinFault
  | other
  deriving DecidableEq

def PinFault.text : PinFault → List Char
  | .other => "Other".toList

/-- A part of a transaction: bytes to send, or a number of bytes to receive. -/
inductive Part
  | write (bytes : List UInt8)
  | read (count : Nat)
  deriving DecidableEq

/-- What a device answers: the bytes of each part received in full, and what went wrong if
something did. -/
structure Reply where
  received : List (List UInt8)
  fault : Option Fault
  deriving DecidableEq

/-- Something on which transactions can be made. -/
class Bus (β : Type) where
  /-- The reply to a transaction with the device of an address, and the bus afterwards. -/
  transact : UInt8 → List Part → β → Reply × β

/-- A bus together with the line by which the sensor announces a new reading. -/
class Board (β : Type) extends Bus β where
  /-- The level of the data-ready line. -/
  dataReady : β → Except PinFault Bool

/-- A transaction as an observer of the bus sees it. -/
structure Transaction where
  address : UInt8
  parts : List Part
  fault : Option Fault
  deriving DecidableEq

/-- The written form of a part, with a blank in front: ` W 11 a0` or ` R 2`. -/
def Part.text : Part → List Char
  | .write bytes => " W".toList ++ bytes.flatMap fun b => ' ' :: Numeral.hexByte b
  | .read count => " R ".toList ++ Numeral.decimal count

/-- The written form of a transaction, `0e W 01 R 2`, with ` ! ` and the fault if it failed. -/
def Transaction.text (t : Transaction) : List Char :=
  Numeral.hexByte t.address ++ t.parts.flatMap Part.text ++
    match t.fault with
    | none => []
    | some fault => " ! ".toList ++ fault.text

end Magnetometer
