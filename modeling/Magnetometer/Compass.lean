import Magnetometer.Clock
import Magnetometer.Envelope
import Magnetometer.Heading
import Magnetometer.Sensor

/-!
# The compass

A `Compass` adds calibration and headings to a sensor. This file holds what a compass knows and how
that changes; `Station` puts it to work on a board.

A calibration pass collects the extremes of the readings from its start on. It is ended by the
caller, or, if it is timed, by the first reading after its period has passed.
-/

namespace Magnetometer

/-- How a compass is to be set up. -/
structure CompassSettings where
  /-- The number under which the compass publishes events. -/
  id : UInt16 := 5
  address : UInt8 := factoryAddress
  /-- For how many ticks a timed calibration pass collects readings. -/
  period : UInt64 := 10000
  wakeup : List (Setting Register) := Setting.wakeup

/-- Why there is no heading. -/
inductive Unavailable
  | calibrating
  | calibrationRequired
  deriving DecidableEq

def Unavailable.name : Unavailable → String
  | .calibrating => "Calibrating"
  | .calibrationRequired => "CalibrationRequired"

/-- What a compass knows. -/
@[ext]
structure Compass where
  id : UInt16
  sensor : Sensor
  period : UInt64
  phase : Phase
  offset : Sample
  /-- The latest reading, as it came from the sensor. -/
  sample : Sample
  /-- The extremes of the running calibration pass, or else of the last one. -/
  envelope : Envelope
  /-- The moment from which the running calibration pass is timed, if it is. -/
  timedFrom : Option UInt64
  deriving DecidableEq

namespace Compass

variable {β : Type} [Bus β]

/-- A compass that has just found an offset in its sensor. Nothing but zero means that none was ever
stored. -/
def ofOffset (settings : CompassSettings) (offset : Sample) : Compass where
  id := settings.id
  sensor := ⟨settings.address⟩
  period := settings.period
  phase := if offset.isZero then .uncalibrated else .calibrated
  offset := offset
  sample := .zero
  envelope := .empty
  timedFrom := none

/-- Sets the sensor going and loads the stored offset. -/
def boot (settings : CompassSettings) : Action β Error Compass := do
  let sensor : Sensor := ⟨settings.address⟩
  sensor.apply settings.wakeup
  let offset ← sensor.readOffset
  let compass := ofOffset settings offset
  Action.log (.up compass.id sensor.address compass.offset compass.phase)
  return compass

/-! ## What a compass learns -/

/-- The compass after a new reading, which counts for the running pass if there is one. -/
def observe (s : Sample) (c : Compass) : Compass :=
  match c.phase with
  | .calibrating => { c with sample := s, envelope := c.envelope.widen s }
  | _ => { c with sample := s }

/-- The compass at the beginning of a pass, which starts out from the latest reading. -/
def beginPass (c : Compass) : Compass :=
  { c with phase := .calibrating, envelope := .seeded c.sample }

/-- The compass with its pass timed from a moment on. -/
def timed (now : UInt64) (c : Compass) : Compass := { c with timedFrom := some now }

/-- The compass with the offset that its envelope gives. -/
def settle (c : Compass) : Compass :=
  { c with offset := c.envelope.midpoint, phase := .calibrated, timedFrom := none }

/-- The compass after the stored offset was cleared. Its own offset stays, and so does a running
pass. -/
def forget (c : Compass) : Compass :=
  match c.phase with
  | .calibrated => { c with phase := .uncalibrated }
  | _ => c

/-- Whether a running pass is timed and its period has passed. -/
def passOver (now : UInt64) (c : Compass) : Bool :=
  match c.phase, c.timedFrom with
  | .calibrating, some start => Ticks.saturatingAdd start c.period < now
  | _, _ => false

/-- What is reported of an attempt to store the offset. -/
def storedNotice (c : Compass) : Except Error Unit → Notice
  | .ok () => .calibrated c.id c.offset
  | .error e => .notStored c.id c.offset e

/-! ## What a reading leaves alone -/

@[simp] theorem id_observe (s : Sample) (c : Compass) : (c.observe s).id = c.id := by
  unfold observe
  split <;> rfl

@[simp] theorem phase_observe (s : Sample) (c : Compass) : (c.observe s).phase = c.phase := by
  unfold observe
  split <;> rfl

@[simp] theorem period_observe (s : Sample) (c : Compass) : (c.observe s).period = c.period := by
  unfold observe
  split <;> rfl

@[simp] theorem offset_observe (s : Sample) (c : Compass) : (c.observe s).offset = c.offset := by
  unfold observe
  split <;> rfl

@[simp] theorem timedFrom_observe (s : Sample) (c : Compass) :
    (c.observe s).timedFrom = c.timedFrom := by
  unfold observe
  split <;> rfl

@[simp] theorem sample_observe (s : Sample) (c : Compass) : (c.observe s).sample = s := by
  unfold observe
  split <;> rfl

/-- A pass is over when the clock is past its period, counted without bounds. -/
theorem passOver_iff {now : UInt64} {c : Compass} :
    c.passOver now = true ↔ c.phase = .calibrating ∧
      ∃ start, c.timedFrom = some start ∧ start.toNat + c.period.toNat < now.toNat := by
  unfold passOver
  split
  next start hphase htimed =>
    rw [decide_eq_true_iff, Ticks.saturatingAdd_lt_iff]
    refine ⟨fun h => ⟨hphase, start, htimed, h⟩, ?_⟩
    rintro ⟨-, start', htimed', h⟩
    rw [htimed] at htimed'
    cases htimed'
    exact h
  next h =>
    refine ⟨nofun, ?_⟩
    rintro ⟨hphase, start, htimed, -⟩
    exact absurd htimed (h start hphase)

end Compass

end Magnetometer
