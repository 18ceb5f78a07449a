/-!
# Phases

Where a compass stands with its calibration.
-/

namespace Magnetometer

/-- Whether there is an offset to correct by. -/
inductive Phase
  /-- No offset was ever found, or it was cleared. -/
  | uncalibrated
  | calibrating
  /-- Headings can be given. -/
  | calibrated
  deriving DecidableEq

def Phase.name : Phase → String
  | .uncalibrated => "Uncalibrated"
  | .calibrating => "Calibrating"
  | .calibrated => "Calibrated"

end Magnetometer
