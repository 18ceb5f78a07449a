import Magnetometer.Compass

/-!
# A compass at work

A `Station` is a compass on the board that carries its sensor. Its operations are meant for a
scheduler, which calls `idleTick` whenever it has nothing else to do and tells what time it is.
-/

namespace Magnetometer

/-- A compass on its board. -/
structure Station (β : Type) where
  compass : Compass
  board : β

namespace Station

variable {β ε α : Type}

/-- An action on the board alone. -/
def onBoard (p : Action β ε α) : Action (Station β) ε α :=
  Action.within Station.board (fun board station => { station with board := board }) p

def compass? : Action (Station β) ε Compass := Action.inspect Station.compass

def update (f : Compass → Compass) : Action (Station β) ε Unit :=
  Action.modify fun station => { station with compass := f station.compass }

/-- Something asked of the sensor of the compass. -/
def ask (question : Sensor → Action β ε α) : Action (Station β) ε α := do
  let compass ← compass?
  onBoard (question compass.sensor)

/-! ## Headings -/

/-- The heading, or why there is none. That calibration is required is published every time. -/
def heading : Action (Station β) Unavailable Nat := do
  let compass ← compass?
  match compass.phase with
  | .calibrating => Action.fail .calibrating
  | .uncalibrated => do
    Action.publish ⟨compass.id, .calibrationRequired⟩
    Action.fail .calibrationRequired
  | .calibrated => return Heading.degrees compass.sample compass.offset

/-! ## Calibration -/

/-- Begins a calibration pass, unless one is running. -/
def startCalibration : Action (Station β) ε Unit := do
  let compass ← compass?
  if compass.phase ≠ .calibrating then
    update Compass.beginPass
    Action.log (.started compass.id compass.sample)
    Action.publish ⟨compass.id, .calibrationStart⟩

/-- Gives notice if there is no running pass to end. -/
def remarkNoPass : Action (Station β) ε Unit := do
  let compass ← compass?
  if compass.phase ≠ .calibrating then
    Action.log (.endedWithoutPass compass.id)

/-- Times the running calibration pass from now on, or begins one so timed. -/
def startTimed (now : UInt64) : Action (Station β) ε Unit := do
  update (Compass.timed now)
  startCalibration

section

variable [Bus β]

/-- Ends the calibration pass: the offset is found, and stored in the sensor. Whether it could be
stored or not, the pass is over and its end is published; only then is a failure reported. Without
a running pass the extremes of the last one are used again. -/
def finishCalibration : Action (Station β) Error Unit := do
  remarkNoPass
  -- The pass is over before anything is stored, so that a failure cannot keep it running.
  update Compass.settle
  let compass ← compass?
  let stored ← (ask fun sensor => sensor.writeOffset compass.offset).attempt
  Action.log (compass.storedNotice stored)
  Action.publish ⟨compass.id, .calibrationEnd⟩
  Action.ofExcept stored

/-- Clears the offset stored in the sensor, so that the compass comes up uncalibrated next time. -/
def clearCalibration : Action (Station β) Error Unit := do
  ask fun sensor => sensor.apply Setting.clearOffset
  update Compass.forget

end

/-! ## Ticks -/

/-- Whether a new reading waits. -/
def tickNeeded [Board β] : Action (Station β) Error Bool where
  run station :=
    ⟨(Board.dataReady station.board).mapError .dataReady, station, []⟩

/-- Takes in a new reading if one waits, and ends a timed calibration pass whose period has
passed. -/
def idleTick [Board β] (now : UInt64) : Action (Station β) Error Unit := do
  if ← tickNeeded then
    let sample ← ask Sensor.readSample
    -- The reading that ends a pass still counts for it.
    update (Compass.observe sample)
    let compass ← compass?
    if compass.passOver now then
      finishCalibration

end Station

end Magnetometer
