import Magnetometer.Proofs.Fault
import Magnetometer.Proofs.Isolation
import Magnetometer.Proofs.Mirror
import Magnetometer.Proofs.Pass

/-!
# What outlasts a compass

When a compass is given up and another one is set up on the same device, all that is left is what
the device stores. An offset that was stored without failure is there until it is overwritten: at
the end of a pass, by a clearing, or past the compass. Nothing else that a compass does reaches the
six registers, whether it succeeds or fails (`Step.LeavesOffset`), and so the next compass comes up
with the offset.

It takes a device that can be relied on for the transactions that go through (`RegisterDevice`), and
of which no transaction, also one that fails, reaches an offset register that it is not meant for
(`Isolated`).

Main statement: `restart_recalls_offset`.
-/

namespace Magnetometer

open RegisterDevice (registers)

/-- What a new compass makes of the board that a history leaves behind. -/
def History.restart {β : Type} [Bus β] (h : History β) (settings : CompassSettings) :
    Outcome β Error Compass := (Compass.boot settings).run h.station.board

/-- The offset that an errand is to leave in the device. Clearing is to leave zero. -/
def Errand.leaves? : Errand → Option Sample
  | .clear => some .zero
  | errand => errand.stored?

theorem Errand.leaves_of_stored {errand : Errand} {offset : Sample}
    (h : errand.stored? = some offset) : errand.leaves? = some offset := by
  cases errand with
  | clear => cases h
  | _ => exact h

section

variable {β : Type} [RegisterDevice β]

/-! ## Storing -/

namespace Sensor

/-- Whatever was stored before, an errand without failure leaves the offset that it is to leave. -/
theorem stores_errand {sensor : Sensor} {errand : Errand} {offset : Sample} {b : β}
    (h : errand.leaves? = some offset)
    (hclean : ((errand.perform sensor).run b).journal.Clean) :
    (registers ((errand.perform sensor).run b).state).Stores offset := by
  cases errand with
  | store _ =>
    cases h
    exact stores_writeOffset hclean
  | fetchThenStore _ =>
    cases h
    rw [Errand.perform] at hclean ⊢
    have hreports : (sensor.readSample : Action β Error Sample).Reports :=
      sensor.closed_reports.readAxes _
    obtain ⟨sample, hread, -, hstore⟩ := hreports.bind_of_clean hclean
    rw [Action.run_bind_ok hread]
    dsimp only at hstore ⊢
    exact stores_writeOffset hstore
  | clear =>
    cases h
    rw [Errand.perform] at hclean ⊢
    exact stores_clearOffset hclean
  | ask command =>
    cases command with
    | writeOffset _ =>
      cases h
      rw [Errand.perform, SensorCommand.perform, Action.run_map, Action.run_map] at hclean ⊢
      dsimp only at hclean ⊢
      exact stores_writeOffset hclean
    | _ => cases h
  | _ => cases h

end Sensor

namespace Call

variable {call : Call β} {offset : Sample}

theorem clean_of_ok {answer : Answer} (hok : call.outcome.result = .ok answer) :
    call.outcome.journal.Clean := by
  rw [← Journal.firstFault_eq_none]
  cases hfirst : call.outcome.journal.firstFault with
  | none => rfl
  | some fault =>
    have hfault := (call.tells.bus fault).mpr hfirst
    rw [hok] at hfault
    cases hfault

theorem stores_after {answer : Answer} (hleaves : call.errand.leaves? = some offset)
    (hok : call.outcome.result = .ok answer) : (registers call.after.board).Stores offset := by
  have hboard : call.after.board = _ := call.runs_errand.board
  have hclean := clean_of_ok hok
  rw [Journal.Clean, call.runs_errand.transactions] at hclean
  rw [hboard]
  exact Sensor.stores_errand hleaves hclean

theorem leaves_of_end (h : call.Ends) : call.errand.leaves? = some call.after.compass.offset := by
  have hcommand : call.command = .finishCalibration ∨ call.command = .idleTick ∧ call.EndsPass := by
    rcases h with hfinish | hends
    · exact .inl hfinish
    · exact (command_of_endsPass hends).imp_right fun htick => ⟨htick, hends⟩
  rcases hcommand with hfinish | ⟨htick, hends⟩
  · rw [errand, call.compass_after, cue, hfinish]
    rfl
  · refine Errand.leaves_of_stored ?_
    rw [errand_of_tick htick, if_pos hends]

end Call

/-! ## What is stored stays stored -/

/-- The step neither ends a pass nor clears an offset, and nobody else writes into the offset
registers. -/
def Step.LeavesOffset (h : History β) : Step β → Prop
  | .perform _ (.sensor command) => ∀ r, command.Writes r → ¬ OffsetAddress r
  | .perform now command => ¬ (h.next now command).Ends ∧ command ≠ .clearCalibration
  | .change f => (registers h.station.board).KeepsOffset (registers (f h.station.board))

theorem Step.LeavesOffset.misses {h : History β} {s : Step β} (hs : s.LeavesOffset h)
    (axis : Axis) (half : Half) :
    s.Misses registers (Register.offset axis half).address h := by
  have haddress := offsetAddress_offset axis half
  cases s with
  | change f => exact hs axis half
  | perform now command =>
    intro hwrites
    by_cases hsensor : ∃ c, command = .sensor c
    · obtain ⟨c, rfl⟩ := hsensor
      exact hs _ hwrites haddress
    · have hkeeps : ¬ (h.next now command).Ends ∧ command ≠ .clearCalibration := by
        cases command with
        | sensor c => exact absurd ⟨c, rfl⟩ hsensor
        | _ => exact hs
      have hwritten := (h.next now command).writes_of_errand (fun c hc => hsensor ⟨c, hc⟩) hwrites
      rcases hwritten.2 with hfinish | hclear | ⟨-, hends⟩
      · exact hkeeps.1 (.inl hfinish)
      · exact hkeeps.2 hclear
      · exact hkeeps.1 (.inr hends)

theorem History.keepsOffset {h : History β} {steps : List (Step β)}
    (hisolated : ∀ axis half, Isolated (registers (β := β)) (Register.offset axis half).address)
    (hsteps : h.Throughout (fun h s => s.LeavesOffset h) steps) :
    (registers h.station.board).KeepsOffset
      (registers (steps.foldl extend h).station.board) := by
  intro axis half
  exact get_of_misses (hisolated axis half) (hsteps.imp fun _ _ hs => hs.misses axis half)

/-! ## Coming up again -/

/-- A compass comes up with what is stored. -/
theorem Compass.boot_of_stores {settings : CompassSettings} {b : β} {offset : Sample}
    (hstores : (registers b).Stores offset)
    (hspares : ∀ r, Setting.Writes settings.wakeup r → ¬ OffsetAddress r)
    (hclean : ((boot settings).run b).journal.Clean) :
    ((boot settings).run b).result = .ok (ofOffset settings offset) := by
  obtain ⟨woken, rfl, hwoken, hboot, -⟩ := boot_of_clean hclean
  -- Waking the sensor does not touch what is stored.
  let sensor : Sensor := ⟨settings.address⟩
  have hkeep := keepsOffset_of_traffic
    ((sensor.closed_entries (β := β) (Setting.Writes settings.wakeup)).apply _ fun _ hr => hr)
    ((sensor.closed_replays _ relies_of_no_fault).apply _ fun _ hr => hr) hspares hwoken
  rw [hboot, (hstores.keep hkeep).sampleAt]

theorem History.restart_of_stores {h : History β} {offset : Sample} {later : List (Step β)}
    {settings : CompassSettings}
    (hisolated : ∀ axis half, Isolated (registers (β := β)) (Register.offset axis half).address)
    (hstores : (registers h.station.board).Stores offset)
    (hlater : h.Throughout (fun h s => s.LeavesOffset h) later)
    (hspares : ∀ r, Setting.Writes settings.wakeup r → ¬ OffsetAddress r)
    (hclean : ((later.foldl extend h).restart settings).journal.Clean) :
    ∃ c, ((later.foldl extend h).restart settings).result = .ok c ∧ c.offset = offset ∧
      (c.phase = .calibrated ↔ offset ≠ .zero) ∧ (c.phase = .uncalibrated ↔ offset = .zero) := by
  have hkept := hstores.keep (keepsOffset hisolated hlater)
  refine ⟨_, Compass.boot_of_stores hkept hspares hclean, rfl, ?_⟩
  rw [Compass.ofOffset, ne_eq, ← Sample.isZero_iff]
  cases offset.isZero <;> simp

/-- Once an offset was stored without failure at an end of a pass, or cleared without failure, it
takes an end of a pass, a clearing or somebody else to change what the device stores, whatever fails
in the meantime. A compass that then comes up on the same device without failure has the very offset
that was stored, and is calibrated unless it is zero. After a clearing it has the zero offset and is
uncalibrated. -/
theorem restart_recalls_offset {h : History β} {now : UInt64} {command : Command} {answer : Answer}
    {later : List (Step β)} {settings : CompassSettings}
    (hisolated : ∀ axis half, Isolated (registers (β := β)) (Register.offset axis half).address)
    (hok : (h.next now command).outcome.result = .ok answer)
    (hlater : (h.extend (.perform now command)).Throughout (fun h s => s.LeavesOffset h) later)
    (hspares : ∀ r, Setting.Writes settings.wakeup r → ¬ OffsetAddress r)
    (hclean : ((later.foldl History.extend (h.extend (.perform now command))).restart
      settings).journal.Clean) :
    let out := (later.foldl History.extend (h.extend (.perform now command))).restart settings
    let offset := (h.next now command).after.compass.offset
    ((h.next now command).Ends → ∃ c, out.result = .ok c ∧ c.offset = offset ∧
      (c.phase = .calibrated ↔ offset ≠ .zero)) ∧
      (command = .clearCalibration → ∃ c, out.result = .ok c ∧ c.offset = .zero ∧
        c.phase = .uncalibrated) := by
  constructor
  · intro hends
    have hstores : (registers (h.extend (.perform now command)).station.board).Stores
        (h.next now command).after.compass.offset :=
      Call.stores_after (Call.leaves_of_end hends) hok
    obtain ⟨c, hboot, hoffset, hphase, -⟩ :=
      History.restart_of_stores hisolated hstores hlater hspares hclean
    exact ⟨c, hboot, hoffset, hphase⟩
  · rintro rfl
    have hstores : (registers (h.extend (.perform now .clearCalibration)).station.board).Stores
        .zero := Call.stores_after rfl hok
    obtain ⟨c, hboot, hoffset, -, hphase⟩ :=
      History.restart_of_stores hisolated hstores hlater hspares hclean
    exact ⟨c, hboot, hoffset, hphase.mpr rfl⟩

end

/-- A tick stores an offset after an attempt to store another one has failed. The compass is given
up during the next pass, of which nothing is left; and once more after the offset was cleared during
that pass. -/
theorem restart_recalls_offset_of_broken_pass :
    let steps : List (Step Bench) :=
      [.perform 0 .startCalibration, .change (Bench.measure ⟨-8, 300, 6⟩), .perform 1 .idleTick,
        .change fun b => { b with outage := some .bus }, .perform 2 .finishCalibration,
        .change fun b => { b.measure ⟨10, 20, 30⟩ with outage := none }, .perform 3 .startTimed]
    let later : List (Step Bench) :=
      [.change (Bench.measure ⟨7, 7, 7⟩), .change fun b => { b with outage := some .overrun },
        .perform 20001 .startCalibration, .perform 20002 .idleTick,
        .change fun b => { b with outage := none }, .perform 20003 .idleTick,
        .perform 20004 (.sensor (.writeRegister 0x10 0))]
    let settings : CompassSettings := { id := 9, wakeup := Setting.standby }
    ∃ h : History Bench, History.run? {} {} steps = some h ∧
      let left := later.foldl History.extend (h.extend (.perform 20000 .idleTick))
      left.station.compass.phase = .calibrating ∧
        (∃ c, (left.restart settings).result = .ok c ∧ c.offset = ⟨1, 160, 18⟩ ∧
          c.phase = .calibrated) ∧
        ∃ c, ((left.extend (.perform 20005 .clearCalibration)).restart settings).result = .ok c ∧
          c.offset = .zero ∧ c.phase = .uncalibrated := by
  intro steps later settings
  let h : History Bench := (History.run? {} {} steps).get rfl
  let left := later.foldl History.extend (h.extend (.perform 20000 .idleTick))
  have hisolated (axis : Axis) (half : Half) :=
    SteadyDevice.isolated (β := Bench) (Register.offset axis half).address
  have hspares : ∀ r, Setting.Writes settings.wakeup r → ¬ OffsetAddress r := by
    have hall : ∀ s ∈ Setting.standby, ¬ OffsetAddress (NamedRegister.address s.register) := by
      decide
    rintro r ⟨s, hs, -, rfl⟩
    exact hall s hs
  have hout (fault : Option Fault) (b : Bench) :
      b.registers.KeepsOffset ({ b with outage := fault } : Bench).registers := fun _ _ => rfl
  refine ⟨h, rfl, by decide, ?_, ?_⟩
  · have hok : (h.next 20000 .idleTick).outcome.result = .ok .done := by decide
    have hlater : (h.extend (.perform 20000 .idleTick)).Throughout (fun h s => s.LeavesOffset h)
        later := by
      refine ⟨Bench.keepsOffset_measure _ _, hout _ _, ⟨by decide, nofun⟩, ⟨by decide, nofun⟩,
        hout _ _, ⟨by decide, nofun⟩, fun r hr => ?_, True.intro⟩
      cases hr
      decide
    have hclean : (left.restart settings).journal.Clean :=
      Journal.firstFault_eq_none.mp (by decide)
    obtain ⟨hstored, -⟩ := restart_recalls_offset hisolated hok hlater hspares hclean
    obtain ⟨c, hboot, hoffset, hphase⟩ := hstored (.inr (by decide))
    exact ⟨c, hboot, hoffset.trans (by decide), hphase.mpr (by decide)⟩
  · have hok : (left.next 20005 .clearCalibration).outcome.result = .ok .done := by decide
    have hclean : ((left.extend (.perform 20005 .clearCalibration)).restart
        settings).journal.Clean := Journal.firstFault_eq_none.mp (by decide)
    have hnone : (left.extend (.perform 20005 .clearCalibration)).Throughout
        (fun h s => s.LeavesOffset h) [] := True.intro
    obtain ⟨-, hcleared⟩ := restart_recalls_offset hisolated hok hnone hspares hclean
    exact hcleared rfl

end Magnetometer
