import Magnetometer.Register
import Magnetometer.Sample

/-!
# Register files

The bytes that the registers of a device hold. Addresses beyond the last register may be used: they
read as zero, and writing to them has no effect.

Main statements: `get_set` says what a write does to every address, `ext_get` that a file is known
by what is read from it, and `sampleAt_load_output` and `sampleAt_load_offset` that a sample put
into its registers is found there again.
-/

namespace Magnetometer

/-- The bytes of the eighteen registers. -/
structure RegisterFile where
  bytes : Vector UInt8 18
  deriving DecidableEq

namespace RegisterFile

def blank : RegisterFile := ⟨.replicate 18 0⟩

def get (f : RegisterFile) (address : Nat) : UInt8 := f.bytes[address]?.getD 0

/-- The file with a byte put at an address. -/
def set (f : RegisterFile) (address : Nat) (value : UInt8) : RegisterFile :=
  ⟨f.bytes.setIfInBounds address value⟩

/-- The bytes at consecutive addresses. -/
def burst (f : RegisterFile) (start count : Nat) : List UInt8 := (List.range' start count).map f.get

def toList (f : RegisterFile) : List UInt8 := f.bytes.toList

/-- The file with the words of a sample put into a block of registers. -/
def load (block : Axis → Half → Register) (s : Sample) (f : RegisterFile) : RegisterFile :=
  Axis.all.foldl
    (fun f axis =>
      (f.set (block axis .high).address.toNat (BigEndian.high (s.along axis))).set
        (block axis .low).address.toNat (BigEndian.low (s.along axis)))
    f

/-- The words that lie in a block of registers. -/
def sampleAt (f : RegisterFile) (block : Axis → Half → Register) : Sample :=
  .ofAxes fun axis =>
    BigEndian.ofBytes (f.get (block axis .high).address.toNat)
      (f.get (block axis .low).address.toNat)

theorem get_set (f : RegisterFile) (i j : Nat) (value : UInt8) :
    (f.set i value).get j = if i = j ∧ i < 18 then value else f.get j := by
  unfold get set
  rw [Vector.getElem?_setIfInBounds]
  by_cases h : i = j
  · subst h
    by_cases hi : i < 18 <;> simp [hi]
  · simp [h]

theorem get_of_le (f : RegisterFile) {i : Nat} (h : 18 ≤ i) : f.get i = 0 := by
  simp [get, h]

theorem ext_get {f g : RegisterFile} (h : ∀ i, i < 18 → f.get i = g.get i) : f = g := by
  obtain ⟨a⟩ := f
  obtain ⟨b⟩ := g
  congr 1
  apply Vector.ext
  intro i hi
  simpa [get, hi] using h i hi

section

variable {block : Axis → Half → Register} {start : Nat}

/-- Every byte of a sample that was put into a block is found in its register. -/
theorem get_load (hblock : Register.Consecutive block start) (f : RegisterFile) (s : Sample)
    (axis : Axis) (half : Half) :
    (f.load block s).get (block axis half).address.toNat = BigEndian.byte (s.along axis) half := by
  have hlast : start + 5 < 18 := by
    have := (block .z .low).address_lt
    rwa [hblock] at this
  -- Of the six writes one goes to the register, and the others to other ones.
  cases axis <;> cases half <;>
    simp (disch := omega) only [load, Axis.all, List.foldl_cons, List.foldl_nil, hblock _ _,
      get_set, Axis.index, Half.index, BigEndian.byte, true_and, if_pos, if_neg]

theorem sampleAt_load (hblock : Register.Consecutive block start) (f : RegisterFile) (s : Sample) :
    (f.load block s).sampleAt block = s := by
  apply Sample.ext_axis
  intro axis
  rw [sampleAt, Sample.along_ofAxes, get_load hblock, get_load hblock]
  exact BigEndian.ofBytes_high_low (s.along axis)

end

theorem sampleAt_load_output (f : RegisterFile) (s : Sample) :
    (f.load .output s).sampleAt .output = s :=
  sampleAt_load Register.consecutive_output f s

theorem sampleAt_load_offset (f : RegisterFile) (s : Sample) :
    (f.load .offset s).sampleAt .offset = s :=
  sampleAt_load Register.consecutive_offset f s

theorem burst_append (f : RegisterFile) (start m n : Nat) :
    f.burst start (m + n) = f.burst start m ++ f.burst (start + m) n := by
  simp [burst, ← List.map_append, List.range'_append_1]

end RegisterFile

end Magnetometer
