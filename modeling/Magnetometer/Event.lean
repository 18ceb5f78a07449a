import Magnetometer.Numeral

/-!
# Events

What a compass tells the rest of the application: that it needs calibrating, and that a pass began
or ended.
-/

namespace Magnetometer

/-- What happened. -/
inductive Occurrence
  | calibrationRequired
  | calibrationStart
  | calibrationEnd
  deriving DecidableEq

namespace Occurrence

def all : List Occurrence := [.calibrationRequired, .calibrationStart, .calibrationEnd]

/-- The number by which the occurrence is known outside. -/
def code : Occurrence → UInt16
  | .calibrationRequired => 1
  | .calibrationStart => 2
  | .calibrationEnd => 3

def name : Occurrence → String
  | .calibrationRequired => "CalibrationRequired"
  | .calibrationStart => "CalibrationStart"
  | .calibrationEnd => "CalibrationEnd"

def ofName? (name : String) : Option Occurrence :=
  all.find? fun occurrence => occurrence.name = name

end Occurrence

/-- An occurrence with the component it happened to. -/
structure Event where
  source : UInt16
  occurrence : Occurrence
  deriving DecidableEq

namespace Event

/-- The written form, `Event { source: 5, event: CalibrationStart }`. -/
def text (e : Event) : List Char :=
  "Event \x7b source: ".toList ++ Numeral.decimal e.source.toNat ++
  ", event: ".toList ++ e.occurrence.name.toList ++ " \x7d".toList

end Event

end Magnetometer
