import Magnetometer.Action
import Magnetometer.Setting

/-!
# The sensor

A `Sensor` is the bus address at which a device answers; what is asked of it becomes transactions
on a bus. There are two kinds of them: a register and a value are sent, or a register is sent and
bytes are received from there on. Bytes that a device does not supply count as zero.

Nearly every operation stops at the first transaction that fails. Storing an offset does not: all
six bytes are sent whatever happens, so that as much as possible gets through, and the first failure
is reported in the end.
-/

namespace Magnetometer

/-- A sensor, known by its bus address. -/
structure Sensor where
  address : UInt8
  deriving DecidableEq

namespace Sensor

variable {β ρ : Type} [Bus β]

/-- The sensor at the address it leaves the factory with. -/
def factory : Sensor := ⟨factoryAddress⟩

/-! ## Transactions -/

/-- Makes a transaction with the sensor and gives back what was received. -/
def transact (sensor : Sensor) (parts : List Part) : Action β Error (List (List UInt8)) where
  run bus :=
    let answered := Bus.transact sensor.address parts bus
    { result :=
        match answered.1.fault with
        | none => .ok answered.1.received
        | some fault => .error (.bus fault)
      state := answered.2
      journal := [.transaction ⟨sensor.address, parts, answered.1.fault⟩] }

def writeRegister (sensor : Sensor) (register value : UInt8) : Action β Error Unit := do
  let _ ← sensor.transact [.write [register, value]]

/-- Reads a number of bytes from a register on. -/
def readBytes (sensor : Sensor) (register : UInt8) (count : Nat) : Action β Error (List UInt8) := do
  let received ← sensor.transact [.write [register], .read count]
  return received.flatten

def readRegister (sensor : Sensor) (register : UInt8) : Action β Error UInt8 := do
  let bytes ← sensor.readBytes register 1
  return bytes.getD 0 0

def readSigned (sensor : Sensor) (register : UInt8) : Action β Error Int8 := do
  let byte ← sensor.readRegister register
  return byte.toInt8

/-- Reads the word that begins at a register, high byte first. -/
def readWord (sensor : Sensor) (register : UInt8) : Action β Error Int16 := do
  let bytes ← sensor.readBytes register 2
  return BigEndian.ofBytes (bytes.getD 0 0) (bytes.getD 1 0)

/-! ## Settings and dumps -/

/-- Carries out one setting. A write is reported before it is tried, a read once it has
succeeded. -/
def applyOne [NamedRegister ρ] (sensor : Sensor) (s : Setting ρ) : Action β Error Unit :=
  let address := NamedRegister.address s.register
  let name := NamedRegister.name s.register
  match s.access with
  | .write => do
    Action.log (.registerWrite name address s.value)
    sensor.writeRegister address s.value
  | .read => do
    let value ← sensor.readRegister address
    Action.log (.registerRead name address value)

/-- Carries out settings in order, up to the first failure. -/
def apply [NamedRegister ρ] (sensor : Sensor) (settings : List (Setting ρ)) : Action β Error Unit :=
  settings.forM sensor.applyOne

/-- Reads a register and reports what it holds. -/
def dumpOne [NamedRegister ρ] (sensor : Sensor) (register : ρ) : Action β Error Unit := do
  let value ← sensor.readRegister (NamedRegister.address register)
  Action.log (.registerDump (NamedRegister.name register) (NamedRegister.address register) value)

/-- Reads registers in order and reports what they hold, up to the first failure. -/
def dump [NamedRegister ρ] (sensor : Sensor) (registers : List ρ) : Action β Error Unit :=
  registers.forM sensor.dumpOne

/-! ## What the device has to tell -/

def whoAmI (sensor : Sensor) : Action β Error UInt8 := sensor.readRegister Register.whoAmI.address

/-- The identification of the device, provided that it is a genuine part. -/
def probe (sensor : Sensor) : Action β Error UInt8 := do
  let id ← sensor.whoAmI
  if id = identification then return id else Action.fail (.invalidDevice id)

def mode (sensor : Sensor) : Action β Error Mode := do
  let bits ← sensor.readRegister Register.systemMode.address
  return Mode.ofBits bits

/-- Which data are new and which were lost. -/
def dataStatus (sensor : Sensor) : Action β Error UInt8 := do
  let bits ← sensor.readRegister Register.dataStatus.address
  return FlagTable.dataStatus.truncate bits

/-- The temperature of the die in degrees Celsius, uncalibrated. -/
def temperature (sensor : Sensor) : Action β Error Int8 :=
  sensor.readSigned Register.dieTemperature.address

/-- Starts continuous readings. -/
def init (sensor : Sensor) : Action β Error Unit := sensor.apply Setting.wakeup

/-- Stops the readings and tells the mode the device is in afterwards. -/
def standby (sensor : Sensor) : Action β Error Mode := do
  sensor.apply Setting.standby
  sensor.mode

/-! ## Readings and offsets -/

/-- The words that lie in a block of registers, one after the other. -/
def readAxes (sensor : Sensor) (block : Axis → Half → Register) : Action β Error Sample := do
  let x ← sensor.readWord (block .x .high).address
  let y ← sensor.readWord (block .y .high).address
  let z ← sensor.readWord (block .z .high).address
  return ⟨x, y, z⟩

/-- The latest reading. Fetching its first byte lowers the data-ready line. -/
def readSample (sensor : Sensor) : Action β Error Sample := sensor.readAxes .output

def readOffset (sensor : Sensor) : Action β Error Sample := sensor.readAxes .offset

/-- The registers of an offset with the bytes they are to hold, in the order in which they are
written: low byte before high byte on each axis. -/
def offsetBytes (offset : Sample) : List (UInt8 × UInt8) :=
  Axis.all.flatMap fun axis =>
    [((Register.offset axis .low).address, BigEndian.byte (offset.along axis) .low),
      ((Register.offset axis .high).address, BigEndian.byte (offset.along axis) .high)]

/-- Stores an offset. Every byte is tried; the first failure is reported. -/
def writeOffset (sensor : Sensor) (offset : Sample) : Action β Error Unit :=
  Action.tryAll (fun (register, value) => sensor.writeRegister register value) (offsetBytes offset)

end Sensor

end Magnetometer
