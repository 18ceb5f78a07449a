import Magnetometer.Proofs.Device
import Magnetometer.Proofs.History

/-!
# The offset kept twice

A compass keeps its offset in two places: it knows it, and the device holds it in six registers. As
long as no transaction fails and nobody else writes to these registers, the two agree in the way
that the phase says (`Station.Mirrors`): a calibrated compass knows what is stored, for an
uncalibrated one nothing is stored, and while a pass is running it is one of the two. It cannot be
said which, since a clearing during a pass leaves the phase alone, and the compass never drops its
own offset.

Every operation either leaves the six registers alone, or stores an offset, or clears them; the
phase it leaves behind fits what it did (`mirrors_idleTick`, `mirrors_finishCalibration`,
`mirrors_clearCalibration`). Main statement: `mirrors_of_clean_run`.
-/

namespace Magnetometer

namespace RegisterFile

/-! ## The offset registers -/

/-- The offset registers hold the bytes of an offset. -/
def Stores (f : RegisterFile) (offset : Sample) : Prop :=
  ∀ axis half, f.get (Register.offset axis half).address.toNat =
    BigEndian.byte (offset.along axis) half

/-- The offset registers hold nothing but zero. -/
def Cleared (f : RegisterFile) : Prop :=
  ∀ axis half, f.get (Register.offset axis half).address.toNat = 0

/-- The offset registers hold the same as in another file. -/
def KeepsOffset (f g : RegisterFile) : Prop :=
  ∀ axis half, g.get (Register.offset axis half).address.toNat =
    f.get (Register.offset axis half).address.toNat

theorem stores_sampleAt (f : RegisterFile) : f.Stores (f.sampleAt .offset) := by
  intro axis half
  rw [sampleAt, Sample.along_ofAxes]
  cases half with
  | high => exact (BigEndian.high_ofBytes _ _).symm
  | low => exact (BigEndian.low_ofBytes _ _).symm

theorem Stores.sampleAt {f : RegisterFile} {offset : Sample} (h : f.Stores offset) :
    f.sampleAt .offset = offset := by
  refine Sample.ext_axis fun axis => ?_
  rw [RegisterFile.sampleAt, Sample.along_ofAxes, h axis .high, h axis .low]
  exact BigEndian.ofBytes_high_low _

theorem cleared_of_stores_zero {f : RegisterFile} (h : f.Stores .zero) : f.Cleared := by
  intro axis half
  rw [h axis half, Sample.along_zero]
  cases half <;> rfl

theorem stores_storeAll (f : RegisterFile) (offset : Sample) :
    (f.storeAll (Sensor.offsetBytes offset)).Stores offset := by
  intro axis half
  have hp : ((Register.offset axis half).address, BigEndian.byte (offset.along axis) half) ∈
      Sensor.offsetBytes offset := Sensor.mem_offsetBytes.mpr ⟨axis, half, rfl⟩
  exact get_storeAll_of_mem (Sensor.lt_of_mem_offsetBytes hp) f (Sensor.nodup_offsetBytes offset) hp

theorem Stores.keep {f g : RegisterFile} {offset : Sample} (h : f.Stores offset)
    (hkeep : f.KeepsOffset g) : g.Stores offset :=
  fun axis half => (hkeep axis half).trans (h axis half)

theorem Cleared.keep {f g : RegisterFile} (h : f.Cleared) (hkeep : f.KeepsOffset g) : g.Cleared :=
  fun axis half => (hkeep axis half).trans (h axis half)

end RegisterFile

open RegisterDevice (registers)

/-! ## The mirror -/

section

variable {β : Type} [RegisterDevice β]

/-- What the device stores agrees with what the compass knows, in the way its phase says. -/
structure Station.Mirrors (s : Station β) : Prop where
  calibrated : s.compass.phase = .calibrated → (registers s.board).Stores s.compass.offset
  uncalibrated : s.compass.phase = .uncalibrated → (registers s.board).Cleared
  calibrating : s.compass.phase = .calibrating →
    (registers s.board).Stores s.compass.offset ∨ (registers s.board).Cleared

theorem Station.Mirrors.keep {s s' : Station β} (h : s.Mirrors)
    (hphase : s'.compass.phase = s.compass.phase) (hoffset : s'.compass.offset = s.compass.offset)
    (hkeep : (registers s.board).KeepsOffset (registers s'.board)) : s'.Mirrors := by
  constructor
  · intro hs'
    rw [hoffset]
    exact (h.calibrated (hphase.symm.trans hs')).keep hkeep
  · intro hs'
    exact (h.uncalibrated (hphase.symm.trans hs')).keep hkeep
  · intro hs'
    rw [hoffset]
    exact (h.calibrating (hphase.symm.trans hs')).imp (·.keep hkeep) (·.keep hkeep)

/-- An operation that writes elsewhere leaves the offset registers alone. -/
theorem keepsOffset_of_traffic {sensor : Sensor} {writes : UInt8 → Prop} {α : Type}
    {p : Action β Error α} (htraffic : p.Entries (sensor.Traffic writes))
    (hreplays : p.Replays fun t => t.fault = none)
    (hspares : ∀ r, writes r → ¬ OffsetAddress r) {b : β} (hclean : (p.run b).journal.Clean) :
    (registers b).KeepsOffset (registers (p.run b).state) := by
  intro axis half
  refine Sensor.get_of_traffic htraffic hreplays hclean fun hwrites => ?_
  exact hspares _ hwrites (offsetAddress_offset axis half)

theorem Sensor.stores_writeOffset {sensor : Sensor} {offset : Sample} {b : β}
    (hclean : ((sensor.writeOffset offset).run b).journal.Clean) :
    (registers ((sensor.writeOffset offset).run b).state).Stores offset := by
  rw [registers_writeOffset hclean]
  exact RegisterFile.stores_storeAll _ offset

theorem Sensor.stores_clearOffset {sensor : Sensor} {b : β}
    (hclean : ((sensor.apply Setting.clearOffset).run b).journal.Clean) :
    (registers ((sensor.apply Setting.clearOffset).run b).state).Stores .zero := by
  rw [registers_clearOffset hclean]
  exact RegisterFile.stores_storeAll _ .zero

/-! ## The start -/

/-- A start without failure finds what is stored once the sensor is woken, and leaves it there. -/
theorem Compass.boot_of_clean {settings : CompassSettings} {b : β}
    (hclean : ((boot settings).run b).journal.Clean) :
    ∃ woken, ((⟨settings.address⟩ : Sensor).apply settings.wakeup).run b = woken ∧
      woken.journal.Clean ∧
      ((boot settings).run b).result =
        .ok (ofOffset settings ((registers woken.state).sampleAt .offset)) ∧
      registers ((boot settings).run b).state = registers woken.state := by
  obtain ⟨c, hboot⟩ := (Compass.reports_boot settings).ok hclean
  obtain ⟨woken, _, offset, hwoken, rfl, hoffset, rfl, hstate, hjournal⟩ := boot_eq_ok hboot
  rw [hjournal] at hclean
  obtain ⟨hcleanWoken, hclean⟩ := Journal.clean_append.mp hclean
  obtain ⟨hread, hregisters⟩ := Sensor.readOffset_of_clean (Journal.clean_append.mp hclean).1
  refine ⟨woken, hwoken, hcleanWoken, ?_, ?_⟩
  · rw [hboot, Except.ok.inj (hoffset.symm.trans hread)]
  · rw [hstate, hregisters]

theorem mirrors_of_start {settings : CompassSettings} {board : β} {h : History β}
    (hstart : History.start? settings board = some h) (hclean : h.journal.Clean) :
    h.station.Mirrors := by
  obtain ⟨compass, hboot, rfl⟩ := History.start?_eq_some hstart
  obtain ⟨woken, -, -, hfound, hregisters⟩ := Compass.boot_of_clean hclean
  have hstores : (registers ((Compass.boot settings).run board).state).Stores
      ((registers woken.state).sampleAt .offset) := by
    rw [hregisters]
    exact (registers woken.state).stores_sampleAt
  generalize (registers woken.state).sampleAt .offset = offset at hfound hstores
  obtain rfl := Except.ok.inj (hboot.symm.trans hfound)
  constructor
  · intro _
    exact hstores
  · intro hphase
    have hphase : (if offset.isZero then Phase.uncalibrated else .calibrated) = .uncalibrated :=
      hphase
    split at hphase
    next hzero =>
      -- A compass comes up uncalibrated only if it finds zero.
      rw [Sample.isZero_iff.mp hzero] at hstores
      exact RegisterFile.cleared_of_stores_zero hstores
    next => cases hphase
  · intro hphase
    exact absurd hphase (Compass.phase_ofOffset_ne settings offset)

/-! ## Operations -/

namespace Station

/-- Ending a pass stores the offset that the compass then knows. -/
theorem mirrors_finishCalibration {s : Station β}
    (hclean : (finishCalibration.run s).journal.Clean) :
    (finishCalibration.run s).state.Mirrors := by
  rw [run_finishCalibration] at hclean ⊢
  obtain ⟨hclean, -⟩ := Journal.clean_append.mp hclean
  obtain ⟨-, hclean⟩ := Journal.clean_append.mp hclean
  have hstores : (registers s.stored.state).Stores s.compass.envelope.midpoint :=
    Sensor.stores_writeOffset hclean
  exact ⟨fun _ => hstores, nofun, nofun⟩

/-- Clearing leaves zero in the registers, and no phase by which something else would be stored. -/
theorem mirrors_clearCalibration {s : Station β}
    (hclean : (clearCalibration.run s).journal.Clean) :
    (clearCalibration.run s).state.Mirrors := by
  rw [run_clearCalibration] at hclean ⊢
  obtain ⟨u, hok⟩ := (s.compass.sensor.reports_apply Setting.clearOffset).ok hclean
  have hcleared : (registers s.cleared.state).Cleared :=
    RegisterFile.cleared_of_stores_zero (Sensor.stores_clearOffset hclean)
  have hforget : s.compass.forget.phase ≠ .calibrated := by
    unfold Compass.forget
    split
    · nofun
    next h => exact h
  have hresult : s.cleared.result = .ok u := hok
  rw [hresult]
  exact ⟨fun hphase => absurd hphase hforget, fun _ => hcleared, fun _ => .inr hcleared⟩

/-- A reading changes neither copy of the offset. -/
theorem Mirrors.fetched {s : Station β} (h : s.Mirrors) (hclean : s.fetched.journal.Clean)
    {c : Compass} (hphase : c.phase = s.compass.phase) (hoffset : c.offset = s.compass.offset) :
    (⟨c, s.fetched.state⟩ : Station β).Mirrors := by
  refine h.keep hphase hoffset ?_
  have hreplays := s.compass.sensor.closed_replays (β := β) (fun _ => False) relies_of_no_fault
  have htraffic := s.compass.sensor.closed_entries (β := β) fun _ => False
  exact keepsOffset_of_traffic (htraffic.readAxes .output) (hreplays.readAxes .output) nofun hclean

theorem mirrors_idleTick {now : UInt64} {s : Station β} (h : s.Mirrors)
    (hclean : ((idleTick now).run s).journal.Clean) : ((idleTick now).run s).state.Mirrors := by
  rw [run_idleTick] at hclean ⊢
  rcases hready : Board.dataReady s.board with fault | _ | _
  · exact h
  · exact h
  · rw [hready] at hclean
    dsimp only at hclean ⊢
    cases hfetch : s.fetched.result with
    | error e =>
      rw [hfetch] at hclean
      exact h.fetched hclean rfl rfl
    | ok sample =>
      rw [hfetch] at hclean
      dsimp only at hclean ⊢
      -- What the registers held before does not matter if the reading ends a pass.
      by_cases hover : (s.compass.observe sample).passOver now = true
      · rw [if_pos hover] at hclean ⊢
        exact mirrors_finishCalibration (Journal.clean_append.mp hclean).2
      · rw [if_neg hover] at hclean ⊢
        exact h.fetched hclean (Compass.phase_observe sample s.compass)
          (Compass.offset_observe sample s.compass)

/-- What is asked of the sensor changes neither copy if it writes elsewhere. -/
theorem Mirrors.ask {s : Station β} (h : s.Mirrors) {α : Type}
    {question : Sensor → Action β Error α} {writes : UInt8 → Prop}
    (hspares : ∀ r, writes r → ¬ OffsetAddress r)
    (htraffic : (question s.compass.sensor).Entries (s.compass.sensor.Traffic writes))
    (hreplays : (question s.compass.sensor).Replays fun t => t.fault = none)
    (hclean : ((Station.ask question).run s).journal.Clean) :
    ((Station.ask question).run s).state.Mirrors :=
  h.keep rfl rfl (keepsOffset_of_traffic htraffic hreplays hspares hclean)

theorem Mirrors.startCalibration {s : Station β} (h : s.Mirrors) {ε : Type} :
    ((Station.startCalibration : Action (Station β) ε Unit).run s).state.Mirrors := by
  rw [run_startCalibration]
  by_cases hphase : s.compass.phase = .calibrating
  · rw [if_pos hphase]
    exact h
  · rw [if_neg hphase]
    refine ⟨nofun, nofun, fun _ => ?_⟩
    -- A pass begins with what was stored before, for whichever reason.
    cases hphase' : s.compass.phase with
    | calibrated => exact .inl (h.calibrated hphase')
    | uncalibrated => exact .inr (h.uncalibrated hphase')
    | calibrating => exact absurd hphase' hphase

end Station

/-! ## Runs -/

/-- The step leaves the offset registers to the compass. -/
def Step.SparesOffset : Step β → Prop
  | .perform _ (.sensor command) => ∀ r, command.Writes r → ¬ OffsetAddress r
  | .perform _ _ => True
  | .change f => ∀ b, (registers b).KeepsOffset (registers (f b))

theorem Station.Mirrors.perform {s : Station β} (h : s.Mirrors) {now : UInt64} {command : Command}
    (hspares : (Step.perform now command : Step β).SparesOffset)
    (hclean : ((command.perform now).run s).journal.Clean) :
    ((command.perform now).run s).state.Mirrors := by
  have hreplays := s.compass.sensor.closed_replays (β := β) (fun _ => False) relies_of_no_fault
  have htraffic := s.compass.sensor.closed_entries (β := β) fun _ => False
  cases command with
  | idleTick =>
    rw [Command.perform, Action.run_mapError, Action.run_map] at hclean ⊢
    exact mirrors_idleTick h hclean
  | heading =>
    rw [Command.perform, Action.run_mapError, Action.run_map, run_heading]
    cases s.compass.phase <;> exact h
  | startCalibration =>
    rw [Command.perform, Action.run_map]
    exact h.startCalibration
  | startTimed =>
    rw [Command.perform, Action.run_map, run_startTimed]
    have htimed : (⟨s.compass.timed now, s.board⟩ : Station β).Mirrors :=
      h.keep rfl rfl fun _ _ => rfl
    exact htimed.startCalibration
  | finishCalibration =>
    rw [Command.perform, Action.run_mapError, Action.run_map] at hclean ⊢
    exact mirrors_finishCalibration hclean
  | clearCalibration =>
    rw [Command.perform, Action.run_mapError, Action.run_map] at hclean ⊢
    exact mirrors_clearCalibration hclean
  | tickNeeded =>
    rw [Command.perform, Action.run_mapError, Action.run_map]
    exact h
  | whoAmI =>
    rw [Command.perform, Action.run_mapError, Action.run_map] at hclean ⊢
    exact h.ask nofun (htraffic.readRegister _) (hreplays.readRegister _) hclean
  | temperature =>
    rw [Command.perform, Action.run_mapError, Action.run_map] at hclean ⊢
    exact h.ask nofun (htraffic.readSigned _) (hreplays.readSigned _) hclean
  | sensor command =>
    rw [Command.perform, Action.run_mapError] at hclean ⊢
    have hreplays' := s.compass.sensor.closed_replays (β := β) command.Writes relies_of_no_fault
    have hclean' : ((Station.ask fun sensor => command.perform sensor).run s).journal.Clean :=
      hclean
    exact h.ask hspares (s.compass.sensor.entries_perform command)
      (hreplays'.perform fun _ _ _ _ => rfl) hclean'

/-- After every run in which no transaction fails and nobody but the compass writes to the offset
registers, what the device stores agrees with what the compass knows. -/
theorem mirrors_of_clean_run {settings : CompassSettings} {board : β} {steps : List (Step β)}
    {h : History β} (run : History.run? settings board steps = some h)
    (hspares : ∀ s ∈ steps, s.SparesOffset) (hclean : h.journal.Clean) : h.station.Mirrors := by
  revert hclean
  refine History.induction (P := fun h => h.journal.Clean → h.station.Mirrors) run ?_ ?_
  · intro h₀ hstart
    exact mirrors_of_start hstart
  · intro s hs h ih hclean
    have hs := hspares s hs
    cases s with
    | perform now command =>
      obtain ⟨hbefore, hcall⟩ := Journal.clean_append.mp hclean
      exact (ih hbefore).perform hs hcall
    | change f => exact (ih hclean).keep rfl rfl (hs h.station.board)

end

theorem Bench.keepsOffset_measure (s : Sample) (b : Bench) :
    b.registers.KeepsOffset (b.measure s).registers := by
  have hbytes : (b.measure s).registers =
      ((((((b.registers.set 1 (BigEndian.high s.x)).set 2 (BigEndian.low s.x)).set 3
        (BigEndian.high s.y)).set 4 (BigEndian.low s.y)).set 5
        (BigEndian.high s.z)).set 6 (BigEndian.low s.z)) := rfl
  intro axis half
  rw [hbytes]
  cases axis <;> cases half <;> simp only [RegisterFile.get_set] <;> rfl

set_option maxRecDepth 1000 in
/-- A stored offset is cleared while a pass is running. The tick that ends the pass stores the new
one. -/
theorem mirrors_of_pass_cleared :
    let steps : List (Step Bench) :=
      [.perform 0 .startTimed, .change (Bench.measure ⟨5, -300, 7⟩), .perform 1 .idleTick,
        .perform 2 .clearCalibration, .perform 3 (.sensor (.writeRegister 0x10 0)),
        .change fun b => { b with pinFails := true }, .perform 4 .idleTick,
        .change fun b => { b with pinFails := false }, .change (Bench.measure ⟨-4, 100, 9⟩),
        .perform 20000 .idleTick]
    ∃ h : History Bench,
      History.run? {} (Bench.storeOffset ⟨1, -2, 300⟩ {}) steps = some h ∧
      (∀ s ∈ steps, s.SparesOffset) ∧ h.journal.Clean ∧
      h.station.compass.phase = .calibrated ∧ h.station.compass.offset = ⟨0, -100, 4⟩ ∧
      h.station.Mirrors := by
  intro steps
  have run : History.run? {} (Bench.storeOffset ⟨1, -2, 300⟩ {}) steps = some _ := rfl
  have hspares : ∀ s ∈ steps, s.SparesOffset := by
    simp only [steps, List.forall_mem_cons]
    refine ⟨True.intro, Bench.keepsOffset_measure _, True.intro, True.intro, ?_, fun _ _ _ => rfl,
      True.intro, fun _ _ _ => rfl, Bench.keepsOffset_measure _, True.intro, nofun⟩
    intro r hr
    cases hr
    decide
  refine ⟨_, run, hspares, ?_, by decide, by decide, mirrors_of_clean_run run hspares ?_⟩
  · exact Journal.firstFault_eq_none.mp (by decide)
  · exact Journal.firstFault_eq_none.mp (by decide)

end Magnetometer
