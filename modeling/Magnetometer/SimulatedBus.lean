import Magnetometer.RegisterFile
import Magnetometer.Sensor

/-!
# A simulated bus

A device with a register file that keeps a log of what is written to it. It has a register pointer,
which a write sets to its first byte and which moves on with every byte stored or fetched. The
pointer runs past the last register and is kept from one transaction to the next.

A transaction is carried out part by part. When a part is refused, the parts before it stay carried
out (`carryOutAll`).
-/

namespace Magnetometer

/-- A device that logs what is written to it. -/
structure SimulatedBus where
  registers : RegisterFile := .blank
  /-- The address of the next byte. -/
  pointer : Nat := 0
  /-- The bytes written so far, each with the low byte of its address. -/
  writes : List (UInt8 × UInt8) := []
  reads : Nat := 0
  dataReady : Bool := false
  failing : Bool := false
  /-- The register to which nothing may be written. -/
  refused : Option UInt8 := none
  deriving DecidableEq

namespace SimulatedBus

/-! ## Transactions -/

/-- Stores a byte where the pointer stands. -/
def store (b : SimulatedBus) (value : UInt8) : SimulatedBus :=
  { b with
    registers := b.registers.set b.pointer value
    writes := b.writes ++ [(UInt8.ofNat b.pointer, value)]
    pointer := b.pointer + 1 }

/-- Fetches bytes from where the pointer stands. The first register of a reading lowers the
data-ready line. -/
def fetch (count : Nat) (b : SimulatedBus) : List UInt8 × SimulatedBus :=
  let taken : Bool := b.pointer ≤ 1 ∧ 1 < b.pointer + count
  (b.registers.burst b.pointer count,
    { b with
      reads := b.reads + 1
      pointer := b.pointer + count
      dataReady := b.dataReady && !taken })

/-- Carries out a part: the bytes of each read, and the device afterwards. A part that sends nothing
has no effect; one that sends data to the refused register is refused. -/
def carryOut (part : Part) (b : SimulatedBus) : Except Fault (List (List UInt8) × SimulatedBus) :=
  match part with
  | .write [] => .ok ([], b)
  | .write (register :: data) =>
    -- A register byte alone only sets the pointer and is never refused.
    if data ≠ [] ∧ b.refused = some register then .error .other
    else .ok ([], data.foldl store { b with pointer := register.toNat })
  | .read count => .ok ([(b.fetch count).1], (b.fetch count).2)

/-- Carries out parts in order, up to the first that is refused. -/
def carryOutAll : List Part → SimulatedBus → Reply × SimulatedBus
  | [], b => (⟨[], none⟩, b)
  | part :: rest, b =>
    match b.carryOut part with
    | .error fault => (⟨[], some fault⟩, b)
    | .ok (received, b) =>
      let later := carryOutAll rest b
      (⟨received ++ later.1.received, later.1.fault⟩, later.2)

def transact (address : UInt8) (parts : List Part) (b : SimulatedBus) : Reply × SimulatedBus :=
  if b.failing then (⟨[], some .other⟩, b)
  else if address ≠ factoryAddress then (⟨[], some (.noAcknowledge .address)⟩, b)
  else carryOutAll parts b

instance : Bus SimulatedBus := ⟨transact⟩

instance : Board SimulatedBus := ⟨fun b => .ok b.dataReady⟩

/-! ## Handling the device -/

/-- Puts a byte into a register without logging it. -/
def poke (register : Register) (value : UInt8) (b : SimulatedBus) : SimulatedBus :=
  { b with registers := b.registers.set register.address.toNat value }

def peek (register : Register) (b : SimulatedBus) : UInt8 :=
  b.registers.get register.address.toNat

/-- Makes a new reading, which raises the data-ready line. -/
def measure (s : Sample) (b : SimulatedBus) : SimulatedBus :=
  { b with registers := b.registers.load .output s, dataReady := true }

/-- Stores an offset without logging it. -/
def storeOffset (s : Sample) (b : SimulatedBus) : SimulatedBus :=
  { b with registers := b.registers.load .offset s }

def clearLog (b : SimulatedBus) : SimulatedBus := { b with writes := [], reads := 0 }

end SimulatedBus

end Magnetometer
