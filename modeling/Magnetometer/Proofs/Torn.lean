import Magnetometer.Proofs.Cue
import Magnetometer.Proofs.Steady
import Magnetometer.Proofs.Storing

/-!
# Torn offsets

An offset lies in six registers, which are written one by one. If some of the writes fail, what the
device holds afterwards is of both the old offset and the new one. On a device on which failures
have no effect (`SteadyDevice`) it can be said exactly what that is.

Storing goes on after a failure, so any of the six bytes may be missing, and each of them is new if
its own write went through and old otherwise (`torn_by_failed_stores`). Clearing stops, so what it
leaves is zero up to the write that failed, and old from there on; and only if it got to the end
does the compass hear of it (`cleared_up_to_failure`).
-/

namespace Magnetometer

open RegisterDevice (registers)
open SteadyDevice (announced)

namespace RegisterFile

/-! ## Bytes that are stored -/

/-- The same byte may be put into registers in any order and more than once. -/
theorem get_storeAll_zero (r : UInt8) :
    ∀ (addresses : List UInt8) (f : RegisterFile),
      (f.storeAll (addresses.map fun a => (a, 0))).get r.toNat =
        if r ∈ addresses then 0 else f.get r.toNat := by
  intro addresses
  induction addresses with
  | nil =>
    intro f
    rfl
  | cons a addresses ih =>
    intro f
    have hrest : f.storeAll ((a :: addresses).map fun a => (a, 0)) =
        (f.set a.toNat 0).storeAll (addresses.map fun a => (a, 0)) := rfl
    rw [hrest, ih]
    by_cases hr : r ∈ addresses
    · rw [if_pos hr, if_pos (List.mem_cons_of_mem _ hr)]
    · rw [if_neg hr]
      by_cases heq : a = r
      · subst heq
        rw [if_pos List.mem_cons_self, get_set]
        split
        · rfl
        next hbeyond => exact f.get_of_le (by omega)
      · have hcons : r ∉ a :: addresses := fun hmem =>
          (List.mem_cons.mp hmem).elim (fun h => heq h.symm) hr
        rw [if_neg hcons, get_set_ne _ _ heq]

/-- Of attempts to store bytes, those that went through have their effect. -/
theorem foldl_applyTo_attempted (sensor : Sensor) (fault : UInt8 → Option Fault)
    (bytes : List (UInt8 × UInt8)) (f : RegisterFile) :
    (bytes.map fun p => sensor.attempted (fault p.1) (Sensor.storing p)).foldl
        (fun f t => t.applyTo f) f =
      f.storeAll (bytes.filter fun p => (fault p.1).isNone) := by
  rw [foldl_applyTo, List.filterMap_map, ← List.filterMap_eq_filter]
  congr 2
  funext p
  cases hfault : fault p.1 <;>
    · simp only [Function.comp_apply, Option.guard, hfault]
      rfl

end RegisterFile

/-! ## Storing -/

section

variable {β : Type} [SteadyDevice β]

namespace Sensor

/-- What becomes of each byte is a matter of its register, if no register is written to twice. -/
theorem storeEach_attempted (sensor : Sensor) :
    ∀ {bytes : List (UInt8 × UInt8)} (b : β), (bytes.map Prod.fst).Nodup →
      ∃ fault : UInt8 → Option Fault, (sensor.storeEach bytes b).1 =
        bytes.map fun p => sensor.attempted (fault p.1) (storing p) := by
  intro bytes
  induction bytes with
  | nil =>
    intro b _
    exact ⟨fun _ => none, rfl⟩
  | cons p bytes ih =>
    intro b hnodup
    rw [List.map_cons, List.nodup_cons] at hnodup
    let answered := Bus.transact sensor.address [.write [p.1, p.2]] b
    obtain ⟨fault, hfault⟩ := ih answered.2 hnodup.2
    let faultOf (r : UInt8) : Option Fault := if r = p.1 then answered.1.fault else fault r
    refine ⟨faultOf, ?_⟩
    have hfirst : faultOf p.1 = answered.1.fault := if_pos rfl
    have hothers : ∀ q ∈ bytes, faultOf q.1 = fault q.1 := by
      intro q hq
      refine if_neg fun heq => hnodup.1 ?_
      rw [← heq]
      exact List.mem_map_of_mem hq
    rw [storeEach, List.map_cons, hfault, hfirst]
    refine congrArg _ (List.map_congr_left fun q hq => ?_)
    rw [hothers q hq]

/-- Of the bytes of an offset those get into their registers whose writes go through. -/
theorem registers_torn (sensor : Sensor) (offset : Sample) (b : β) {fault : UInt8 → Option Fault}
    (hmade : (sensor.storeEach (offsetBytes offset) b).1 =
      (offsetBytes offset).map fun p => sensor.attempted (fault p.1) (storing p)) :
    registers ((sensor.writeOffset offset).run b).state =
      (registers b).storeAll ((offsetBytes offset).filter fun p => (fault p.1).isNone) := by
  have hreplays := (sensor.closed_replays (β := β) (fun _ => True) relies_of_steady).writeOffset
    offset (fun _ _ => True.intro) b fun _ _ => True.intro
  rw [hreplays, run_writeOffset, RegisterFile.replay, Journal.transactions_map_transaction, hmade]
  exact RegisterFile.foldl_applyTo_attempted sensor fault _ _

/-- Each byte is new if its own write went through, and old otherwise. -/
theorem get_torn (sensor : Sensor) (offset : Sample) (b : β) {fault : UInt8 → Option Fault}
    (hmade : (sensor.storeEach (offsetBytes offset) b).1 =
      (offsetBytes offset).map fun p => sensor.attempted (fault p.1) (storing p))
    {p : UInt8 × UInt8} (hp : p ∈ offsetBytes offset) :
    (registers ((sensor.writeOffset offset).run b).state).get p.1.toNat =
      if fault p.1 = none then p.2 else (registers b).get p.1.toNat := by
  rw [sensor.registers_torn offset b hmade]
  by_cases hnone : fault p.1 = none
  · rw [if_pos hnone]
    refine RegisterFile.get_storeAll_of_mem (lt_of_mem_offsetBytes hp) _ ?_ ?_
    · exact (nodup_offsetBytes offset).sublist (List.filter_sublist.map Prod.fst)
    · exact List.mem_filter.mpr ⟨hp, Option.isNone_iff_eq_none.mpr hnone⟩
  · rw [if_neg hnone]
    refine RegisterFile.get_storeAll_of_notMem _ fun hmem => hnone ?_
    obtain ⟨q, hq, heq⟩ := List.mem_map.mp hmem
    rw [← heq]
    exact Option.isNone_iff_eq_none.mp (List.mem_filter.mp hq).2

theorem get_torn_of_notMem (sensor : Sensor) (offset : Sample) (b : β) {r : UInt8}
    (hr : r ∉ (offsetBytes offset).map Prod.fst) :
    (registers ((sensor.writeOffset offset).run b).state).get r.toNat =
      (registers b).get r.toNat := by
  obtain ⟨fault, hmade⟩ := sensor.storeEach_attempted b (nodup_offsetBytes offset)
  rw [sensor.registers_torn offset b hmade]
  refine RegisterFile.get_storeAll_of_notMem _ fun hmem => hr ?_
  exact (List.filter_sublist.map Prod.fst).subset hmem

/-- However often storing an offset is tried, and whatever is done about the failures in between,
no other register is touched. -/
theorem get_torn_of_attempts (sensor : Sensor) {r : UInt8}
    (hr : r ∉ (offsetBytes .zero).map Prod.fst) :
    ∀ (attempts : List (Sample × (β → β))) (b : β),
      (∀ a ∈ attempts, ∀ b, registers (a.2 b) = registers b) →
      (registers (attempts.foldl (fun b a => a.2 ((sensor.writeOffset a.1).run b).state) b)).get
          r.toNat = (registers b).get r.toNat := by
  intro attempts
  induction attempts with
  | nil =>
    intro b _
    rfl
  | cons a attempts ih =>
    intro b h
    rw [List.foldl_cons, ih _ fun a' ha' => h a' (List.mem_cons_of_mem _ ha'),
      h a List.mem_cons_self]
    exact sensor.get_torn_of_notMem a.1 b hr

/-- No byte of an offset is the first one of a reading. -/
theorem announced_writeOffset (sensor : Sensor) (offset : Sample) (b : β) :
    announced ((sensor.writeOffset offset).run b).state = announced b := by
  have hannounces : (sensor.writeOffset offset : Action β Error Unit).Announces :=
    (sensor.closed_announces fun _ => True).writeOffset offset fun _ _ => True.intro
  obtain ⟨fault, hmade⟩ := sensor.storeEach_attempted b (nodup_offsetBytes offset)
  refine (hannounces b).of_silent ?_
  rw [run_writeOffset, Journal.takes, Journal.transactions_map_transaction, hmade, List.any_map,
    List.any_eq_false]
  intro p _
  exact Bool.eq_false_iff.mp (sensor.takes_attempted_storing (fault p.1) p)

end Sensor

/-- Storing an offset on a steady device sends six bytes, low before high on each axis, whichever of
them fail, and reports the first failure. Every byte that got through is in its register, and in the
place of every other byte there is what was there before. No other register is touched, and a
reading that is announced stays so.

Whatever earlier attempts have left behind, and whatever was done to the bus in between, once
storing succeeds the offset is there as a whole; and all else is as it was before the first attempt,
if nobody else has touched the registers. -/
theorem torn_by_failed_stores (sensor : Sensor) (offset : Sample) (b : β) :
    let out := (sensor.writeOffset offset).run b
    let bytes : List (UInt8 × UInt8) :=
      [(0x0A, BigEndian.low offset.x), (0x09, BigEndian.high offset.x),
        (0x0C, BigEndian.low offset.y), (0x0B, BigEndian.high offset.y),
        (0x0E, BigEndian.low offset.z), (0x0D, BigEndian.high offset.z)]
    (∃ fault : UInt8 → Option Fault,
      out.journal = bytes.map (fun p =>
        .transaction ⟨sensor.address, [.write [p.1, p.2]], fault p.1⟩) ∧
      out.result =
        (match (bytes.map Prod.fst).findSome? fault with
        | none => .ok ()
        | some first => .error (.bus first)) ∧
      ∀ p ∈ bytes, (registers out.state).get p.1.toNat =
        if fault p.1 = none then p.2 else (registers b).get p.1.toNat) ∧
      (∀ r ∉ bytes.map Prod.fst,
        (registers out.state).get r.toNat = (registers b).get r.toNat) ∧
      announced out.state = announced b ∧
      ∀ attempts : List (Sample × (β → β)),
        let torn := attempts.foldl (fun b a => a.2 ((sensor.writeOffset a.1).run b).state) b
        let last := (sensor.writeOffset offset).run torn
        last.result = .ok () →
          (∀ p ∈ bytes, (registers last.state).get p.1.toNat = p.2) ∧
            ((∀ a ∈ attempts, ∀ b, registers (a.2 b) = registers b) → ∀ r ∉ bytes.map Prod.fst,
              (registers last.state).get r.toNat = (registers b).get r.toNat) := by
  intro out bytes
  obtain ⟨fault, hmade⟩ := sensor.storeEach_attempted b (Sensor.nodup_offsetBytes offset)
  have hrun : out = _ := sensor.run_writeOffset offset b
  refine ⟨⟨fault, ?_, ?_, fun p hp => ?_⟩, fun r hr => ?_, ?_, ?_⟩
  · rw [hrun, hmade]
    exact List.map_map
  · rw [hrun, hmade, Sensor.verdict, List.findSome?_map, List.findSome?_map]
    rfl
  · exact sensor.get_torn offset b hmade hp
  · exact sensor.get_torn_of_notMem offset b hr
  · exact sensor.announced_writeOffset offset b
  · intro attempts torn last hok
    have hclean : last.journal.Clean :=
      (sensor.closed_reports.writeOffset offset fun _ _ => True.intro).clean hok
    have hstored : registers last.state = (registers torn).storeAll bytes :=
      Sensor.registers_writeOffset hclean
    rw [hstored]
    refine ⟨fun p hp => ?_, fun hspared r hr => ?_⟩
    · exact RegisterFile.get_storeAll_of_mem (Sensor.lt_of_mem_offsetBytes hp) _
        (Sensor.nodup_offsetBytes offset) hp
    · rw [RegisterFile.get_storeAll_of_notMem _ hr]
      exact sensor.get_torn_of_attempts hr attempts b hspared

/-- A byte of an offset is lost, and then another one of the next. The third offset is stored as a
whole. -/
theorem torn_by_failed_stores_until_mended :
    let board : Bench := { countdown := some (2, .bus) }
    let attempts : List (Sample × (Bench → Bench)) :=
      [(⟨5, -6, 772⟩, fun b => { b with countdown := some (0, .overrun) }), (⟨-2, 9, 9⟩, id)]
    let torn := attempts.foldl (fun b a => a.2 ((Sensor.factory.writeOffset a.1).run b).state) board
    let last := (Sensor.factory.writeOffset ⟨-32768, 384, -1⟩).run torn
    (registers torn).sampleAt .offset = ⟨-251, 9, 9⟩ ∧ last.result = .ok () ∧
      (registers last.state).get (0x0C : UInt8).toNat = 128 ∧
      (registers last.state).get (0x10 : UInt8).toNat =
        (registers board).get (0x10 : UInt8).toNat := by
  intro board attempts torn last
  have hclean : last.journal.Clean := Journal.firstFault_eq_none.mp (by decide)
  obtain ⟨_, hok⟩ := (Sensor.factory.closed_reports.writeOffset (β := Bench) ⟨-32768, 384, -1⟩
    fun _ _ => True.intro).ok hclean
  have hspared : ∀ a ∈ attempts, ∀ b, registers (a.2 b) = registers b := by
    intro a ha b
    rcases List.mem_cons.mp ha with rfl | ha
    · rfl
    · rw [List.mem_singleton.mp ha]
      rfl
  obtain ⟨-, -, -, hlast⟩ := torn_by_failed_stores Sensor.factory ⟨-32768, 384, -1⟩ board
  -- The runs are compared as they stand and not carried out, which would take long.
  with_reducible have h := hlast attempts hok
  refine ⟨by decide, hok, ?_, ?_⟩
  · with_reducible exact h.1 (0x0C, 128) (by decide)
  · with_reducible exact h.2 hspared 0x10 (by decide)

/-! ## Clearing -/

theorem RegisterFile.foldl_applyTo_zeroed (sensor : Sensor) (addresses : List UInt8)
    (f : RegisterFile) :
    (addresses.map fun r => sensor.attempted none [.write [r, 0]]).foldl
        (fun f t => t.applyTo f) f =
      f.storeAll (addresses.map fun r => (r, 0)) := by
  refine foldl_applyTo_storing _ _ f (fun t ht => ?_) ?_
  · obtain ⟨r, -, rfl⟩ := List.mem_map.mp ht
    rfl
  · rw [List.map_map, List.map_map]
    rfl

theorem Compass.forget_eq (c : Compass) :
    c.forget =
      { c with phase := if c.phase = .calibrated then .uncalibrated else c.phase } := by
  obtain ⟨id, sensor, period, phase, offset, sample, envelope, timedFrom⟩ := c
  cases phase <;> rfl

/-- Clearing the stored offset writes zero into six registers, low before high on each axis, and
stops at the first failure. If there is none, all six are zero, and a compass that was calibrated is
so no more; a pass that is running goes on. If there is one, it is reported, the compass is as it
was, and zero is in those registers only that come before the one that failed. In no case is
anything published, or anything else touched. -/
theorem cleared_up_to_failure (s : Station β) :
    let out := Station.clearCalibration.run s
    let order : List UInt8 := [0x0A, 0x09, 0x0C, 0x0B, 0x0E, 0x0D]
    let zero (fault : Option Fault) (r : UInt8) : Transaction :=
      ⟨s.compass.sensor.address, [.write [r, 0]], fault⟩
    out.journal.events = [] ∧
      ((out.result = .ok () ∧ out.journal.transactions = order.map (zero none) ∧
          out.state.compass =
            { s.compass with
              phase := if s.compass.phase = .calibrated then .uncalibrated else s.compass.phase } ∧
          ∀ r : UInt8, (registers out.state.board).get r.toNat =
            if r ∈ order then 0 else (registers s.board).get r.toNat) ∨
        ∃ cleared failed rest fault, order = cleared ++ failed :: rest ∧
          out.result = .error (.bus fault) ∧
          out.journal.transactions = cleared.map (zero none) ++ [zero (some fault) failed] ∧
          out.state.compass = s.compass ∧
          ∀ r : UInt8, (registers out.state.board).get r.toNat =
            if r ∈ cleared then 0 else (registers s.board).get r.toNat) := by
  intro out order zero
  have hrun : out = _ := Station.run_clearCalibration s
  have hregisters : registers s.cleared.state =
      s.cleared.journal.transactions.foldl (fun f t => t.applyTo f) (registers s.board) :=
    (s.compass.sensor.closed_replays (β := β) (fun _ => True) relies_of_steady).apply
      Setting.clearOffset (fun _ _ => True.intro) s.board fun _ _ => True.intro
  have hfollows : s.cleared.Follows s.compass.sensor (order.map fun r => [.write [r, 0]]) :=
    s.compass.sensor.follows_apply Setting.clearOffset s.board
  refine ⟨?_, ?_⟩
  · rw [hrun]
    exact s.silent_cleared.1
  · rcases hfollows.of_map with
      ⟨u, hok, hmade⟩ | ⟨cleared, failed, rest, fault, hsplit, hfailed, hmade⟩
    · left
      rw [hmade, RegisterFile.foldl_applyTo_zeroed] at hregisters
      rw [hrun, hok]
      refine ⟨rfl, hmade, s.compass.forget_eq, fun r => ?_⟩
      dsimp only
      rw [hregisters, RegisterFile.get_storeAll_zero]
    · right
      -- The last transaction has failed, and so had no effect.
      rw [hmade, List.foldl_append, RegisterFile.foldl_applyTo_zeroed] at hregisters
      rw [hrun, hfailed]
      refine ⟨cleared, failed, rest, fault, hsplit, rfl, hmade, rfl, fun r => ?_⟩
      dsimp only
      rw [hregisters]
      exact RegisterFile.get_storeAll_zero r cleared (registers s.board)

end

end Magnetometer
