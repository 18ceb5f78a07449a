import Magnetometer.Proofs.Transaction

/-!
# Bursts

A burst is a number of bytes fetched in one transaction. The device fetches them one after the other
from where its pointer stands (`fetchEach`), so a burst may be split: fetching some bytes and then
some more finds the device in the same states in between as fetching them all (`fetchEach_add`). A
sensor that fetches the rest by a transaction of its own sets the pointer to where it stands already.
All that tells the two apart is the number of readings (`fetched_fetched`).

The words of a sample are fetched in three bursts. By this they are found, and leave the device, as
if all six bytes had been fetched in one.

Main statement: `bursts_split`.
-/

namespace Magnetometer

/-- The sample with the words that some bytes make up, high byte first. -/
def Sample.ofBytes (bytes : List UInt8) : Sample :=
  .ofAxes fun axis =>
    BigEndian.ofBytes (bytes.getD (2 * axis.index) 0) (bytes.getD (2 * axis.index + 1) 0)

theorem Sample.toNat_along_ofBytes (bytes : List UInt8) (axis : Axis) :
    ((ofBytes bytes).along axis).toUInt16.toNat =
      256 * (bytes.getD (2 * axis.index) 0).toNat + (bytes.getD (2 * axis.index + 1) 0).toNat := by
  rw [ofBytes, along_ofAxes, BigEndian.toNat_ofBytes]

namespace RegisterFile

theorem getElem?_burst (f : RegisterFile) (start : Nat) {count i : Nat} (h : i < count) :
    (f.burst start count)[i]? = some (f.get (start + i)) := by
  rw [burst, List.getElem?_map, List.getElem?_range' h, Nat.one_mul]
  rfl

theorem get_eq (f : RegisterFile) (i : Nat) : f.get i = if h : i < 18 then f.bytes[i] else 0 := by
  unfold get
  split
  next h => rw [Vector.getElem?_eq_getElem h, Option.getD_some]
  next h => rw [Vector.getElem?_eq_none (Nat.le_of_not_lt h), Option.getD_none]

theorem getD_burst (f : RegisterFile) (start : Nat) {count i : Nat} (h : i < count) :
    (f.burst start count).getD i 0 = f.get (start + i) := by
  rw [List.getD_eq_getElem?_getD, f.getElem?_burst start h]
  rfl

end RegisterFile

namespace SimulatedBus

/-! ## Byte after byte -/

/-- Fetches the byte where the pointer stands. The first register of a reading lowers the data-ready
line. -/
def fetchByte (b : SimulatedBus) : UInt8 × SimulatedBus :=
  (b.registers.get b.pointer,
    { b with pointer := b.pointer + 1, dataReady := b.dataReady && b.pointer != 1 })

/-- Fetches bytes one after the other. -/
def fetchEach : Nat → SimulatedBus → List UInt8 × SimulatedBus
  | 0, b => ([], b)
  | count + 1, b =>
    let later := fetchEach count b.fetchByte.2
    (b.fetchByte.1 :: later.1, later.2)

theorem fetchEach_add (m n : Nat) :
    ∀ b : SimulatedBus, fetchEach (m + n) b =
      ((fetchEach m b).1 ++ (fetchEach n (fetchEach m b).2).1,
        (fetchEach n (fetchEach m b).2).2) := by
  induction m with
  | zero =>
    intro b
    rw [Nat.zero_add]
    rfl
  | succ m ih =>
    intro b
    rw [Nat.succ_add, fetchEach, fetchEach, ih b.fetchByte.2]
    rfl

/-- A reading is counted, and then its bytes are fetched one after the other. -/
theorem fetch_eq_fetchEach (count : Nat) :
    ∀ b : SimulatedBus, b.fetch count = fetchEach count { b with reads := b.reads + 1 } := by
  induction count with
  | zero =>
    intro b
    have hnone : decide (b.pointer ≤ 1 ∧ 1 < b.pointer + 0) = false := by
      rw [decide_eq_false_iff_not]
      omega
    rw [fetch, hnone, Bool.not_false, Bool.and_true]
    rfl
  | succ count ih =>
    intro b
    -- The line is low afterwards if the first byte lowers it or one of the others does.
    have hline : (!decide (b.pointer ≤ 1 ∧ 1 < b.pointer + (count + 1))) =
        (b.pointer != 1 && !decide (b.pointer + 1 ≤ 1 ∧ 1 < b.pointer + 1 + count)) := by
      rw [Bool.eq_iff_iff]
      simp only [Bool.not_eq_true', decide_eq_false_iff_not, Bool.and_eq_true, bne_iff_ne]
      omega
    have hrest := ih { b.fetchByte.2 with reads := b.reads }
    have hbyte : fetchByte { b with reads := b.reads + 1 } =
        (b.fetchByte.1, { b.fetchByte.2 with reads := b.reads + 1 }) := rfl
    rw [fetchEach, hbyte, ← hrest, fetch, hline, ← Bool.and_assoc, Nat.add_comm count 1,
      RegisterFile.burst_append, ← Nat.add_assoc]
    rfl

/-- A reading that is split goes on where its first half has ended. -/
theorem fetch_add (m n : Nat) (b : SimulatedBus) :
    b.fetch (m + n) =
      ((b.fetch m).1 ++ ((b.fetch m).2.fetch n).1,
        { ((b.fetch m).2.fetch n).2 with reads := b.reads + 1 }) := by
  -- The second half as a reading that is not counted apart.
  have hrest : fetchEach n (b.fetch m).2 = fetch n { (b.fetch m).2 with reads := b.reads } :=
    (fetch_eq_fetchEach n { (b.fetch m).2 with reads := b.reads }).symm
  rw [fetch_eq_fetchEach (m + n), fetchEach_add, ← fetch_eq_fetchEach m, hrest]
  rfl

end SimulatedBus

/-! ## Bursts of a sensor -/

/-- An action succeeds with a value and leaves a state behind. -/
def Action.Gives {σ ε α : Type} (p : Action σ ε α) (s : σ) (a : α) (s' : σ) : Prop :=
  (p.run s).result = .ok a ∧ (p.run s).state = s'

theorem Action.Gives.bind {σ ε α γ : Type} {p : Action σ ε α} {f : α → Action σ ε γ} {s s' s'' : σ}
    {a : α} {c : γ} (hp : p.Gives s a s') (hf : (f a).Gives s' c s'') :
    (p >>= f).Gives s c s'' := by
  obtain ⟨hresult, rfl⟩ := hp
  unfold Gives
  rw [run_bind_ok hresult]
  exact hf

namespace SimulatedBus

theorem gives_readBytes {b : SimulatedBus} (hup : b.failing = false) (r : UInt8) (n : Nat) :
    (Sensor.factory.readBytes r n).Gives b (b.registers.burst r.toNat n) (b.fetched r n) := by
  have hreceived : Bus.transact Sensor.factory.address [.write [r], .read n] b =
      (⟨[b.registers.burst r.toNat n], none⟩, b.fetched r n) :=
    transact_received hup _
  unfold Action.Gives
  rw [Sensor.run_readBytes, hreceived]
  exact ⟨congrArg Except.ok (List.append_nil _), rfl⟩

theorem gives_readWord {b : SimulatedBus} (hup : b.failing = false) (r : UInt8) :
    (Sensor.factory.readWord r).Gives b
      (BigEndian.ofBytes (b.registers.get r.toNat) (b.registers.get (r.toNat + 1)))
      (b.fetched r 2) := by
  refine (gives_readBytes hup r 2).bind ⟨congrArg Except.ok ?_, rfl⟩
  rw [b.registers.getD_burst _ Nat.two_pos, b.registers.getD_burst _ Nat.one_lt_two, Nat.add_zero]

/-- Setting the pointer to where it stands has no effect. -/
theorem fetched_fetched {r next : UInt8} {m : Nat} (hnext : next.toNat = r.toNat + m) (n : Nat)
    (b : SimulatedBus) :
    (b.fetched r m).fetched next n = { b.fetched r (m + n) with reads := b.reads + 2 } := by
  have hfetched (b : SimulatedBus) (r : UInt8) (n : Nat) :
      b.fetched r n = (fetch n { b with pointer := r.toNat }).2 := rfl
  have hpointer : { b.fetched r m with pointer := next.toNat } = b.fetched r m := by
    rw [hnext]
    rfl
  rw [hfetched _ next, hpointer, hfetched, hfetched, fetch_add]
  rfl

/-- A sample is found as it would be in a burst of six bytes, and the device is left as by such a
one. -/
theorem gives_readAxes {b : SimulatedBus} (hup : b.failing = false)
    {block : Axis → Half → Register} {start : UInt8}
    (hblock : Register.Consecutive block start.toNat) :
    (Sensor.factory.readAxes block).Gives b (.ofBytes (b.registers.burst start.toNat 6))
      { b.fetched start 6 with reads := b.reads + 3 } := by
  have hhigh (axis : Axis) : (block axis .high).address.toNat = start.toNat + 2 * axis.index :=
    hblock axis .high
  have hword (axis : Axis) :
      BigEndian.ofBytes (b.registers.get (block axis .high).address.toNat)
          (b.registers.get ((block axis .high).address.toNat + 1)) =
        (Sample.ofBytes (b.registers.burst start.toNat 6)).along axis := by
    have haxis := axis.index_lt
    rw [Sample.ofBytes, Sample.along_ofAxes, RegisterFile.getD_burst _ _ (by omega),
      RegisterFile.getD_burst _ _ (by omega), hhigh, Nat.add_assoc]
  have hx : (block .x .high).address = start := UInt8.toNat_inj.mp (hhigh .x)
  -- The second word is fetched where the first one has ended, and so is the third.
  have hstate : ((b.fetched (block .x .high).address 2).fetched (block .y .high).address 2).fetched
      (block .z .high).address 2 = { b.fetched start 6 with reads := b.reads + 3 } := by
    have hreads (b : SimulatedBus) (k : Nat) (r : UInt8) (n : Nat) :
        fetched r n { b with reads := k } = { b.fetched r n with reads := k + 1 } := rfl
    rw [hx, fetched_fetched (m := 2) (hhigh .y), hreads, fetched_fetched (m := 4) (hhigh .z)]
  refine (gives_readWord hup _).bind ((gives_readWord (b := b.fetched _ 2) hup _).bind
    ((gives_readWord (b := (b.fetched _ 2).fetched _ 2) hup _).bind
      ⟨congrArg Except.ok (Sample.ext_axis fun axis => ?_), hstate⟩))
  cases axis with
  | x => exact hword .x
  | y => exact hword .y
  | z => exact hword .z

/-! ## Splitting -/

/-- Let the bus not be failing. A burst finds the bytes that lie in its registers, and zeros past
the last one, also past the last address that is a byte; it leaves the pointer behind its last byte,
and lowers the data-ready line just if the first register of a reading is among its own. Split in
two, it finds the same bytes and leaves the device the same, but for one reading more. A reading and
an offset are the words in a burst of six bytes, by which the device is left the same, but for two
readings more. Without its sign a word counts 256 for each unit of its first byte and one for each of
its second. -/
theorem bursts_split (b : SimulatedBus) (hup : b.failing = false) :
    (∀ (r : UInt8) (n : Nat), ∃ bytes state,
      (Sensor.factory.readBytes r n).Gives b bytes state ∧ bytes.length = n ∧
      (∀ i < n, bytes[i]? =
        some (if h : r.toNat + i < 18 then b.registers.bytes[r.toNat + i] else 0)) ∧
      state.registers = b.registers ∧ state.pointer = r.toNat + n ∧
      (state.dataReady = true ↔ b.dataReady = true ∧ 1 ∉ List.range' r.toNat n)) ∧
    (∀ (r : UInt8) (m n : Nat), r.toNat + m ≤ 255 → ∃ bytes between more last,
      (Sensor.factory.readBytes r m).Gives b bytes between ∧
      (Sensor.factory.readBytes (r + UInt8.ofNat m) n).Gives between more last ∧
      (Sensor.factory.readBytes r (m + n)).Gives b (bytes ++ more)
        { last with reads := b.reads + 1 } ∧
      last.reads = b.reads + 2) ∧
    (∃ bytes state, (Sensor.factory.readBytes 0x01 6).Gives b bytes state ∧
      Sensor.factory.readSample.Gives b (.ofBytes bytes) { state with reads := b.reads + 3 }) ∧
    (∃ bytes state, (Sensor.factory.readBytes 0x09 6).Gives b bytes state ∧
      Sensor.factory.readOffset.Gives b (.ofBytes bytes) { state with reads := b.reads + 3 }) ∧
    ∀ (bytes : List UInt8) (axis : Axis),
      ((Sample.ofBytes bytes).along axis).toUInt16.toNat =
        256 * (bytes.getD (2 * axis.index) 0).toNat +
          (bytes.getD (2 * axis.index + 1) 0).toNat := by
  refine ⟨fun r n => ⟨_, _, gives_readBytes hup r n, ?_, fun i hi => ?_, rfl, rfl, ?_⟩,
    fun r m n hm => ?_,
    ⟨_, _, gives_readBytes hup 0x01 6, gives_readAxes hup Register.consecutive_output⟩,
    ⟨_, _, gives_readBytes hup 0x09 6, gives_readAxes hup Register.consecutive_offset⟩,
    Sample.toNat_along_ofBytes⟩
  · rw [RegisterFile.burst, List.length_map, List.length_range']
  · rw [b.registers.getElem?_burst _ hi, RegisterFile.get_eq]
  · rw [fetched, Bool.and_eq_true, Bool.not_eq_true', decide_eq_false_iff_not,
      List.mem_range'_1]
  · have hnext : (r + UInt8.ofNat m).toNat = r.toNat + m := by
      rw [UInt8.toNat_add, UInt8.toNat_ofNat', Nat.add_mod_mod]
      exact Nat.mod_eq_of_lt (Nat.lt_succ_of_le hm)
    refine ⟨_, _, _, _, gives_readBytes hup r m, gives_readBytes (b := b.fetched r m) hup _ n,
      ?_, ?_⟩
    · rw [hnext, fetched_fetched hnext]
      have hwhole := gives_readBytes hup r (m + n)
      rw [RegisterFile.burst_append] at hwhole
      exact hwhole
    · rw [fetched_fetched hnext]

/-- A burst over all registers and beyond, split behind the first register of a reading. That it is
this register to which nothing may be written makes no difference. -/
theorem bursts_split_at_reading :
    let b : SimulatedBus := { measure ⟨-2, 300, 5⟩ {} with pointer := 40, refused := some 1 }
    b.failing = false ∧ (0 : UInt8).toNat + 2 ≤ 255 ∧
      (∃ bytes between more last,
        (Sensor.factory.readBytes 0 2).Gives b bytes between ∧
        (Sensor.factory.readBytes 2 18).Gives between more last ∧
        (Sensor.factory.readBytes 0 20).Gives b (bytes ++ more) { last with reads := 1 } ∧
        between.dataReady = false ∧ last.reads = 2) ∧
      ∃ bytes state, (Sensor.factory.readBytes 0x01 6).Gives b bytes state ∧
        Sensor.factory.readSample.Gives b (.ofBytes bytes) { state with reads := 3 } := by
  intro b
  obtain ⟨-, hsplit, hreading, -⟩ := bursts_split b rfl
  obtain ⟨bytes, between, more, last, hfirst, hrest, hwhole, hreads⟩ := hsplit 0 2 18 (by decide)
  refine ⟨rfl, by decide, ⟨bytes, between, more, last, hfirst, hrest, hwhole, ?_, hreads⟩, hreading⟩
  obtain ⟨-, rfl⟩ := hfirst
  decide

end SimulatedBus

end Magnetometer
