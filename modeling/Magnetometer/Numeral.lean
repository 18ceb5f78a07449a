/-!
# Written numbers

How numbers stand in log lines and in the text of values: decimal, hexadecimal in both cases and
binary, with the paddings that line columns up. Texts are lists of characters.

Main statements: `length_hexByte`, `length_binaryByte`, `length_padRight` and `length_padLeft`,
the widths on which the columns rest.
-/

namespace Magnetometer.Numeral

def decimal (n : Nat) : List Char := Nat.toDigits 10 n

/-- An integer in decimal, with a minus sign before a negative one. -/
def signed : Int → List Char
  | .ofNat n => decimal n
  | .negSucc n => '-' :: decimal (n + 1)

/-- A byte as two lower-case hexadecimal digits. -/
def hexByte (b : UInt8) : List Char :=
  [Nat.digitChar (b.toNat / 16), Nat.digitChar (b.toNat % 16)]

/-- A byte as two upper-case hexadecimal digits. -/
def upperHexByte (b : UInt8) : List Char := (hexByte b).map Char.toUpper

/-- A byte in lower-case hexadecimal, without leading zeros. -/
def shortHex (b : UInt8) : List Char := Nat.toDigits 16 b.toNat

/-- A byte as eight binary digits, the highest first. -/
def binaryByte (b : UInt8) : List Char :=
  [7, 6, 5, 4, 3, 2, 1, 0].map fun place => if b.toNat.testBit place then '1' else '0'

/-- A text filled up with blanks on the right; a longer text is left whole. -/
def padRight (width : Nat) (text : List Char) : List Char :=
  text ++ List.replicate (width - text.length) ' '

/-- A text filled up with blanks on the left; a longer text is left whole. -/
def padLeft (width : Nat) (text : List Char) : List Char :=
  List.replicate (width - text.length) ' ' ++ text

@[simp] theorem length_hexByte (b : UInt8) : (hexByte b).length = 2 := rfl

@[simp] theorem length_upperHexByte (b : UInt8) : (upperHexByte b).length = 2 := rfl

@[simp] theorem length_binaryByte (b : UInt8) : (binaryByte b).length = 8 := rfl

@[simp] theorem length_padRight (width : Nat) (text : List Char) :
    (padRight width text).length = max width text.length := by
  simp only [padRight, List.length_append, List.length_replicate]
  omega

@[simp] theorem length_padLeft (width : Nat) (text : List Char) :
    (padLeft width text).length = max width text.length := by
  simp only [padLeft, List.length_append, List.length_replicate]
  omega

/-- A byte in decimal has at most three digits. -/
@[simp] theorem length_padLeft_decimal (b : UInt8) :
    (padLeft 3 (decimal b.toNat)).length = 3 := by
  have h : (decimal b.toNat).length ≤ 3 :=
    (Nat.length_toDigits_le_iff (by omega) (by omega)).mpr (by have := b.toNat_lt; omega)
  rw [length_padLeft]
  omega

end Magnetometer.Numeral
