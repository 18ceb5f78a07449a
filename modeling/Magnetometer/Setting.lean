import Magnetometer.Control
import Magnetometer.Register

/-!
# Settings

A list of settings says what to write to which registers, and which registers to read back on the
way. The device is woken, put to sleep and made to forget its offset by such lists.
-/

namespace Magnetometer

inductive Access
  | read
  | write
  deriving DecidableEq

def Access.name : Access → String
  | .read => "Read"
  | .write => "Write"

/-- One step of setting the device up. The value counts for writing only. -/
structure Setting (ρ : Type) where
  access : Access
  register : ρ
  value : UInt8
  deriving DecidableEq

namespace Setting

def map {ρ τ : Type} (f : ρ → τ) (s : Setting ρ) : Setting τ := ⟨s.access, f s.register, s.value⟩

/-- The written form, `RegConfig { op: Write, reg: CtrlReg2, value: 160 }`. -/
def text (s : Setting Register) : List Char :=
  "RegConfig \x7b op: ".toList ++ s.access.name.toList ++
  ", reg: ".toList ++ s.register.name.toList ++
  ", value: ".toList ++ Numeral.decimal s.value.toNat ++ " \x7d".toList

/-- The written form of a list, in square brackets. -/
def listText (settings : List (Setting Register)) : List Char :=
  "[".toList ++ ", ".toList.intercalate (settings.map text) ++ "]".toList

/-- Ten readings a second without further averaging, raw, each after a reset of the sensor. The
second control register comes first, since the first one starts the readings. -/
def wakeup : List (Setting Register) :=
  [⟨.write, .control2, Flag.autoReset.bits ||| Flag.raw.bits⟩,
    ⟨.write, .control1,
      DataRate.hz10.code <<< DataRate.shift ||| Oversampling.os16.code <<< Oversampling.shift |||
        Flag.active.bits⟩]

/-- Zero in all six offset registers, low byte before high byte on each axis. -/
def clearOffset : List (Setting Register) :=
  [⟨.write, .offset .x .low, 0⟩, ⟨.write, .offset .x .high, 0⟩,
    ⟨.write, .offset .y .low, 0⟩, ⟨.write, .offset .y .high, 0⟩,
    ⟨.write, .offset .z .low, 0⟩, ⟨.write, .offset .z .high, 0⟩]

/-- No more readings. -/
def standby : List (Setting Register) := [⟨.write, .control1, 0⟩]

end Setting

end Magnetometer
