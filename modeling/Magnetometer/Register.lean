import Magnetometer.Axis
import Magnetometer.BigEndian

/-!
# Registers

The register map of the device, and the class `NamedRegister` of everything that can be used as a
register: it has an address on the bus and a name for the log. Settings and dumps are written for
any such type; `NamedAddress` is the plainest of them.
-/

namespace Magnetometer

def Half.abbreviation : Half → String
  | .high => "Msb"
  | .low => "Lsb"

inductive Register
  /-- Which axes hold new data, and which data were lost. -/
  | dataStatus
  | output (axis : Axis) (half : Half)
  | whoAmI
  | systemMode
  | offset (axis : Axis) (half : Half)
  | dieTemperature
  /-- Output rate, oversampling and activation. -/
  | control1
  /-- Reset and raw output. -/
  | control2
  deriving DecidableEq

/-- What can be used as a register: an address on the bus and a name for the log. -/
class NamedRegister (ρ : Type) where
  address : ρ → UInt8
  name : ρ → String

namespace Register

/-- Where the register lies. -/
def address : Register → UInt8
  | .dataStatus => 0
  | .output axis half => UInt8.ofNat (1 + 2 * axis.index + half.index)
  | .whoAmI => 7
  | .systemMode => 8
  | .offset axis half => UInt8.ofNat (9 + 2 * axis.index + half.index)
  | .dieTemperature => 15
  | .control1 => 16
  | .control2 => 17

def name : Register → String
  | .dataStatus => "DrStatus"
  | .output axis half => "Out" ++ axis.letter.toString ++ half.abbreviation
  | .whoAmI => "WhoAmI"
  | .systemMode => "SysMod"
  | .offset axis half => "Off" ++ axis.letter.toString ++ half.abbreviation
  | .dieTemperature => "DieTemp"
  | .control1 => "CtrlReg1"
  | .control2 => "CtrlReg2"

/-- All registers in the order of their addresses. -/
def all : List Register :=
  [.dataStatus,
    .output .x .high, .output .x .low, .output .y .high, .output .y .low,
    .output .z .high, .output .z .low,
    .whoAmI, .systemMode,
    .offset .x .high, .offset .x .low, .offset .y .high, .offset .y .low,
    .offset .z .high, .offset .z .low,
    .dieTemperature, .control1, .control2]

def ofName? (name : String) : Option Register := all.find? fun register => register.name = name

/-- The pairs of offset registers, low byte first, in the order in which an offset is stored. -/
def offsetPairs : List (Register × Register) :=
  Axis.all.map fun axis => (.offset axis .low, .offset axis .high)

instance : NamedRegister Register := ⟨address, name⟩

theorem mem_all (register : Register) : register ∈ all := by
  cases register with
  | output axis half => cases axis <;> cases half <;> decide
  | offset axis half => cases axis <;> cases half <;> decide
  | _ => decide

/-- The registers lie without gaps from address zero on. -/
theorem map_address_all : all.map address = (List.range 18).map UInt8.ofNat := by decide

theorem address_lt (register : Register) : register.address.toNat < 18 := by
  have hmem : register.address ∈ all.map address := List.mem_map_of_mem register.mem_all
  rw [map_address_all] at hmem
  obtain ⟨i, hi, haddress⟩ := List.mem_map.mp hmem
  rw [← haddress, UInt8.toNat_ofNat']
  exact Nat.lt_of_le_of_lt (Nat.mod_le i _) (List.mem_range.mp hi)

/-- The bytes of a block lie one after the other from an address on. -/
def Consecutive (block : Axis → Half → Register) (start : Nat) : Prop :=
  ∀ axis half, (block axis half).address.toNat = start + 2 * axis.index + half.index

theorem consecutive_output : Consecutive output 1 := by
  intro axis half
  cases axis <;> cases half <;> rfl

theorem consecutive_offset : Consecutive offset 9 := by
  intro axis half
  cases axis <;> cases half <;> rfl

end Register

/-- A register given by address and name alone. -/
structure NamedAddress where
  address : UInt8
  name : String
  deriving DecidableEq

namespace NamedAddress

instance : NamedRegister NamedAddress := ⟨NamedAddress.address, NamedAddress.name⟩

/-- Address and name of a register of any type. -/
def ofRegister {ρ : Type} [NamedRegister ρ] (register : ρ) : NamedAddress :=
  ⟨NamedRegister.address register, NamedRegister.name register⟩

end NamedAddress

end Magnetometer
