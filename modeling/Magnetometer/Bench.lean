import Magnetometer.RegisterFile
import Magnetometer.Sensor

/-!
# The test bench

A device with a register file, put on a board on which things can be made to go wrong. A transaction
may be refused for one of four reasons, tried in this order: there is an outage; the address is not
that of the device; a countdown has come to its end; the register is out of order. A refused
transaction has no effect on the registers or on the data-ready line.

The bench knows the two kinds of transfer that a `Sensor` makes, and refuses any other.
-/

namespace Magnetometer

/-- What a transaction does with the registers of a device. -/
inductive Transfer
  | store (register value : UInt8)
  | fetch (register : UInt8) (count : Nat)
  deriving DecidableEq

/-- The transfer that a transaction makes, if it is of a known kind. -/
def Transfer.ofParts? : List Part → Option Transfer
  | [.write [register, value]] => some (.store register value)
  | [.write [register], .read count] => some (.fetch register count)
  | _ => none

/-- A device on a board, and what is to go wrong with it. -/
structure Bench where
  registers : RegisterFile := .blank
  /-- The address to which the device answers. -/
  address : UInt8 := factoryAddress
  dataReady : Bool := false
  /-- Whether the line keeps its level when a reading is fetched. -/
  sticky : Bool := false
  pinFails : Bool := false
  /-- How every transaction fails, if there is an outage. -/
  outage : Option Fault := none
  /-- After how many more transactions one fails, and how. -/
  countdown : Option (Nat × Fault) := none
  /-- How reading from a register on fails. -/
  readFaults : UInt8 → Option Fault := fun _ => none
  /-- How writing into a register fails. -/
  writeFaults : UInt8 → Option Fault := fun _ => none

namespace Bench

/-! ## Transactions -/

def faultOf (b : Bench) : Transfer → Option Fault
  | .store register _ => b.writeFaults register
  | .fetch register _ => b.readFaults register

/-- Whether a transfer is refused, and the bench with its countdown moved on. -/
def permit (address : UInt8) (t : Transfer) (b : Bench) : Option Fault × Bench :=
  match b.outage with
  | some fault => (some fault, b)
  | none =>
    if address ≠ b.address then (some (.noAcknowledge .address), b)
    else
      match b.countdown with
      | none => (b.faultOf t, b)
      -- The countdown is over: it makes this one transaction fail and no other.
      | some (0, fault) => (some fault, { b with countdown := none })
      -- It goes on also when the register refuses the transfer.
      | some (n + 1, fault) => (b.faultOf t, { b with countdown := some (n, fault) })

/-- Makes a transfer: what is received, and the bench afterwards. Fetching the first register of a
reading lowers the data-ready line, unless it is sticky. -/
def carryOut (t : Transfer) (b : Bench) : List (List UInt8) × Bench :=
  match t with
  | .store register value => ([], { b with registers := b.registers.set register.toNat value })
  | .fetch register count =>
    let taken : Bool := register.toNat ≤ 1 ∧ 1 < register.toNat + count
    ([b.registers.burst register.toNat count],
      { b with dataReady := b.dataReady && (b.sticky || !taken) })

def transact (address : UInt8) (parts : List Part) (b : Bench) : Reply × Bench :=
  match Transfer.ofParts? parts with
  | none => (⟨[], some .other⟩, b)
  | some t =>
    let permitted := b.permit address t
    match permitted.1 with
    | some fault => (⟨[], some fault⟩, permitted.2)
    | none =>
      let done := permitted.2.carryOut t
      (⟨done.1, none⟩, done.2)

instance : Bus Bench := ⟨transact⟩

instance : Board Bench := ⟨fun b => if b.pinFails then .error .other else .ok b.dataReady⟩

/-! ## Handling the device -/

def poke (register : Nat) (value : UInt8) (b : Bench) : Bench :=
  { b with registers := b.registers.set register value }

/-- Makes a new reading, which raises the data-ready line. -/
def measure (s : Sample) (b : Bench) : Bench :=
  { b with registers := b.registers.load .output s, dataReady := true }

/-- Stores an offset without using the bus. -/
def storeOffset (s : Sample) (b : Bench) : Bench :=
  { b with registers := b.registers.load .offset s }

/-- Makes reading from a register on fail, or work again. -/
def setReadFault (register : UInt8) (fault : Option Fault) (b : Bench) : Bench :=
  { b with readFaults := fun r => if r = register then fault else b.readFaults r }

def setWriteFault (register : UInt8) (fault : Option Fault) (b : Bench) : Bench :=
  { b with writeFaults := fun r => if r = register then fault else b.writeFaults r }

end Bench

end Magnetometer
