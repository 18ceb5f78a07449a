import Magnetometer.Bus

/-!
# Errors

What can go wrong when the sensor is used.
-/

namespace Magnetometer

/-- Why an operation on the sensor failed. -/
inductive Error
  | bus (fault : Fault)
  | dataReady (fault : PinFault)
  /-- The device identifies itself as some other part. -/
  | invalidDevice (identification : UInt8)
  deriving DecidableEq

/-- The written form of an error, `I2c(NoAcknowledge(Address))`. -/
def Error.text : Error → List Char
  | .bus fault => "I2c(".toList ++ fault.text ++ ")".toList
  | .dataReady fault => "DataReady(".toList ++ fault.text ++ ")".toList
  | .invalidDevice id => "InvalidDevice(".toList ++ Numeral.decimal id.toNat ++ ")".toList

end Magnetometer
