import Magnetometer.Proofs.Mirror
import Magnetometer.Proofs.Steady

/-!
# Words in registers

A sample is put into registers in two ways: a sensor stores the bytes of an offset one by one, low
before high, and a register file is loaded with words, high before low (`RegisterFile.load`). Both
are undone by the one way in which words are fetched. As words and pairs of bytes correspond one to
one, nothing is lost in either direction, whatever the words and whatever the bytes.

Main statement: `words_survive_registers`.
-/

namespace Magnetometer

open RegisterDevice (registers)
open SteadyDevice (announced sticky)

namespace RegisterFile

/-- Writes into different registers may change places. -/
theorem set_comm (f : RegisterFile) {i j : Nat} (h : i ≠ j) (v w : UInt8) :
    (f.set i v).set j w = (f.set j w).set i v := by
  refine ext_get fun k _ => ?_
  rw [get_set, get_set, get_set, get_set]
  by_cases hi : i = k ∧ i < 18
  · have hj : ¬ (j = k ∧ j < 18) := fun hj => h (hi.1.trans hj.1.symm)
    rw [if_neg hj, if_pos hi, if_pos hi]
  · rw [if_neg hi, if_neg hi]

/-- Putting a byte where it already lies changes nothing. -/
theorem set_get (f : RegisterFile) {i : Nat} {v : UInt8} (h : f.get i = v) : f.set i v = f := by
  refine ext_get fun k _ => ?_
  rw [get_set]
  split
  next hk => rw [← h, hk.1]
  next => rfl

theorem storeAll_of_held {f : RegisterFile} :
    ∀ {bytes : List (UInt8 × UInt8)}, (∀ p ∈ bytes, f.get p.1.toNat = p.2) →
      f.storeAll bytes = f := by
  intro bytes
  induction bytes with
  | nil =>
    intro _
    rfl
  | cons p bytes ih =>
    intro h
    have hrest : f.storeAll (p :: bytes) = (f.set p.1.toNat p.2).storeAll bytes := rfl
    rw [hrest, f.set_get (h p List.mem_cons_self)]
    exact ih fun q hq => h q (List.mem_cons_of_mem _ hq)

/-- An offset that is there already may be stored again. -/
theorem Stores.storeAll {f : RegisterFile} {offset : Sample} (h : f.Stores offset) :
    f.storeAll (Sensor.offsetBytes offset) = f := by
  refine storeAll_of_held fun p hp => ?_
  obtain ⟨axis, half, rfl⟩ := Sensor.mem_offsetBytes.mp hp
  exact h axis half

/-- The two ways of putting an offset into its registers come to the same. -/
theorem storeAll_offsetBytes (f : RegisterFile) (offset : Sample) :
    f.storeAll (Sensor.offsetBytes offset) = f.load .offset offset := by
  rw [RegisterFile.storeAll, Sensor.offsetBytes, List.foldl_flatMap, load]
  congr
  funext f axis
  have hne : (Register.offset axis .low).address.toNat ≠
      (Register.offset axis .high).address.toNat := by
    cases axis <;> decide
  exact f.set_comm hne _ _

end RegisterFile

namespace Sensor

theorem readSample_of_clean {β : Type} [RegisterDevice β] {sensor : Sensor} {b : β}
    (h : (sensor.readSample.run b).journal.Clean) :
    (sensor.readSample.run b).result = .ok ((registers b).sampleAt .output) ∧
      registers (sensor.readSample.run b).state = registers b :=
  readAxes_of_clean Register.consecutive_output h

/-- A reading that was fetched is announced no longer, unless the announcement is sticky. -/
theorem announced_readSample {β : Type} [SteadyDevice β] {sensor : Sensor} {b : β}
    (h : (sensor.readSample.run b).journal.Clean) :
    announced (sensor.readSample.run b).state = (announced b && sticky b) := by
  have hmade := (sensor.follows_readAxes .output b).transactions_of_clean h
  have htaken : (sensor.readSample.run b).journal.takes = true :=
    congrArg (List.any · Transaction.takes) hmade
  rw [(sensor.announces_readSample b).announced_eq, htaken, Bool.not_true, Bool.or_false]

end Sensor

/-- As long as no transaction fails, an offset that is stored is the one that is read again; storing
again the offset that was read changes no register; and a sensor stores an offset just as one puts
it into a simulated device that held the same before. A reading made on a simulated device is the
one that is fetched there. That changes no register, and the reading is announced no longer. -/
theorem words_survive_registers {β : Type} [RegisterDevice β] (sensor : Sensor) (b : β) :
    let stored (offset : Sample) := (sensor.writeOffset offset).run b
    let reread (offset : Sample) :=
      (sensor.writeOffset offset >>= fun _ => sensor.readOffset).run b
    let restored := (sensor.readOffset >>= fun offset => sensor.writeOffset offset).run b
    let fetched (sample : Sample) (device : SimulatedBus) :=
      sensor.readSample.run (device.measure sample)
    (∀ offset, (reread offset).journal.Clean → (reread offset).result = .ok offset) ∧
    (restored.journal.Clean →
      restored.result = .ok () ∧ registers restored.state = registers b) ∧
    (∀ (offset : Sample) (device : SimulatedBus), device.registers = registers b →
      (stored offset).journal.Clean → (stored offset).result = .ok () ∧
        registers (stored offset).state = (device.storeOffset offset).registers) ∧
    ∀ sample device, (fetched sample device).journal.Clean →
      (fetched sample device).result = .ok sample ∧
        (fetched sample device).state.registers = (device.measure sample).registers ∧
        (fetched sample device).state.dataReady = false := by
  intro stored reread restored fetched
  have hstoring (offset : Sample) :=
    sensor.closed_reports.writeOffset (β := β) offset fun _ _ => True.intro
  have hreading : (sensor.readOffset : Action β Error Sample).Reports :=
    sensor.closed_reports.readAxes .offset
  refine ⟨fun offset hclean => ?_, fun hclean => ?_, fun offset device hsame hclean => ?_,
    fun sample device hclean => ?_⟩
  · obtain ⟨_, hstored, hclean', hread⟩ := (hstoring offset).bind_of_clean hclean
    have hrun : reread offset = _ := Action.run_bind_ok hstored
    rw [hrun, (Sensor.readOffset_of_clean hread).1, Sensor.registers_writeOffset hclean',
      RegisterFile.storeAll_offsetBytes, RegisterFile.sampleAt_load_offset]
  · obtain ⟨offset, hread, hclean', hclean''⟩ :=
      hreading.bind_of_clean hclean
    obtain ⟨hfound, hregisters⟩ := Sensor.readOffset_of_clean hclean'
    -- What is stored are the words that lie there.
    obtain rfl : _ = offset := Except.ok.inj (hfound.symm.trans hread)
    obtain ⟨_, hok⟩ := (hstoring _).ok hclean''
    have hrun : restored = _ := Action.run_bind_ok hread
    rw [hrun]
    refine ⟨hok, (Sensor.registers_writeOffset hclean'').trans ?_⟩
    rw [hregisters]
    exact (registers b).stores_sampleAt.storeAll
  · obtain ⟨_, hok⟩ := (hstoring offset).ok hclean
    refine ⟨hok, (Sensor.registers_writeOffset hclean).trans ?_⟩
    rw [RegisterFile.storeAll_offsetBytes, ← hsame]
    rfl
  · obtain ⟨hfound, hregisters⟩ := Sensor.readSample_of_clean hclean
    refine ⟨hfound.trans ?_, hregisters, Sensor.announced_readSample hclean⟩
    exact congrArg Except.ok (device.registers.sampleAt_load_output sample)

/-- Words with the sign bit, or with the highest bit of the low byte, are no exception. -/
theorem words_survive_registers_with_sign :
    let device : SimulatedBus := { SimulatedBus.storeOffset ⟨-1, 128, -129⟩ {} with pointer := 20 }
    let offset : Sample := ⟨-32768, 384, -1⟩
    let reread :=
      (Sensor.factory.writeOffset offset >>= fun _ => Sensor.factory.readOffset).run device
    let restored :=
      (Sensor.factory.readOffset >>= fun offset => Sensor.factory.writeOffset offset).run device
    let stored := (Sensor.factory.writeOffset offset).run device
    let fetched := Sensor.factory.readSample.run (device.measure offset)
    reread.result = .ok offset ∧ registers restored.state = registers device ∧
      registers stored.state = (device.storeOffset offset).registers ∧
      fetched.result = .ok offset ∧ fetched.state.dataReady = false := by
  intro device offset reread restored stored fetched
  have hreread : reread.journal.Clean := Journal.firstFault_eq_none.mp (by decide)
  have hrestored : restored.journal.Clean := Journal.firstFault_eq_none.mp (by decide)
  have hstored : stored.journal.Clean := Journal.firstFault_eq_none.mp (by decide)
  have hfetched : fetched.journal.Clean := Journal.firstFault_eq_none.mp (by decide)
  have hsame : device.registers = registers device := rfl
  obtain ⟨hread, hkept, hagree, hfetch⟩ := words_survive_registers Sensor.factory device
  -- The runs are compared as they stand and not carried out, which would take long.
  with_reducible
    refine ⟨hread offset hreread, (hkept hrestored).2, (hagree offset device hsame hstored).2, ?_⟩
    exact ⟨(hfetch offset device hfetched).1, (hfetch offset device hfetched).2.2⟩

end Magnetometer
