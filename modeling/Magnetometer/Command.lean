import Magnetometer.Station

/-!
# Commands

Everything that can be asked of a sensor or of a compass, as data, with one type of answer and one
type of refusal. What holds of every operation can so be said of `perform` once and for all.
-/

namespace Magnetometer

/-- What can be asked of a sensor. -/
inductive SensorCommand
  | whoAmI
  | probe
  | init
  | standby
  | mode
  | readRegister (register : UInt8)
  | writeRegister (register value : UInt8)
  | readWord (register : UInt8)
  | readSigned (register : UInt8)
  | readBytes (register : UInt8) (count : Nat)
  | readSample
  | readOffset
  | writeOffset (offset : Sample)
  | temperature
  | dataStatus
  | apply (settings : List (Setting NamedAddress))
  | dump (registers : List NamedAddress)
  deriving DecidableEq

/-- What can be asked of a compass. -/
inductive Command
  | idleTick
  | heading
  | startCalibration
  | startTimed
  | finishCalibration
  | clearCalibration
  | tickNeeded
  | whoAmI
  | temperature
  /-- A command for the sensor, past the compass. -/
  | sensor (command : SensorCommand)
  deriving DecidableEq

inductive Answer
  | done
  | level (high : Bool)
  | byte (value : UInt8)
  | signedByte (value : Int8)
  | word (value : Int16)
  | bytes (values : List UInt8)
  | sample (value : Sample)
  | mode (value : Mode)
  | status (bits : UInt8)
  | degrees (value : Nat)
  deriving DecidableEq

/-- Why a command was not carried out. -/
inductive Refusal
  | error (e : Error)
  | unavailable (reason : Unavailable)
  /-- There is no compass to carry it out. -/
  | noCompass
  deriving DecidableEq

/-- Carries out a command on a sensor. -/
def SensorCommand.perform {β : Type} [Bus β] (sensor : Sensor) :
    SensorCommand → Action β Error Answer
  | .whoAmI => .byte <$> sensor.whoAmI
  | .probe => .byte <$> sensor.probe
  | .init => (fun _ => .done) <$> sensor.init
  | .standby => .mode <$> sensor.standby
  | .mode => .mode <$> sensor.mode
  | .readRegister register => .byte <$> sensor.readRegister register
  | .writeRegister register value => (fun _ => .done) <$> sensor.writeRegister register value
  | .readWord register => .word <$> sensor.readWord register
  | .readSigned register => .signedByte <$> sensor.readSigned register
  | .readBytes register count => .bytes <$> sensor.readBytes register count
  | .readSample => .sample <$> sensor.readSample
  | .readOffset => .sample <$> sensor.readOffset
  | .writeOffset offset => (fun _ => .done) <$> sensor.writeOffset offset
  | .temperature => .signedByte <$> sensor.temperature
  | .dataStatus => .status <$> sensor.dataStatus
  | .apply settings => (fun _ => .done) <$> sensor.apply settings
  | .dump registers => (fun _ => .done) <$> sensor.dump registers

/-- Carries out a command on a compass at a moment. -/
def Command.perform {β : Type} [Board β] (now : UInt64) :
    Command → Action (Station β) Refusal Answer
  | .idleTick => .mapError .error ((fun _ => .done) <$> Station.idleTick now)
  | .heading => .mapError .unavailable (.degrees <$> Station.heading)
  | .startCalibration => (fun _ => .done) <$> Station.startCalibration
  | .startTimed => (fun _ => .done) <$> Station.startTimed now
  | .finishCalibration => .mapError .error ((fun _ => .done) <$> Station.finishCalibration)
  | .clearCalibration => .mapError .error ((fun _ => .done) <$> Station.clearCalibration)
  | .tickNeeded => .mapError .error (.level <$> Station.tickNeeded)
  | .whoAmI => .mapError .error (.byte <$> Station.ask Sensor.whoAmI)
  | .temperature => .mapError .error (.signedByte <$> Station.ask Sensor.temperature)
  | .sensor command => .mapError .error (Station.ask command.perform)

end Magnetometer
