import Magnetometer.Proofs.Mirror
import Magnetometer.Proofs.Table

/-!
# Coming up

A compass comes up in two stages: its sensor is set going by a table of settings, and then the
stored offset is loaded. The table may be any table at all, so it may itself have written into the
registers of the offset; what counts is what they hold when the table is through. Either stage stops
at the first failure, and then there is no compass.

`Sensor.tells_apply` is what the first stage leaves in the log, whether it fails or not. Main
statement: `comes_up_as_stored`.
-/

namespace Magnetometer

open RegisterDevice (registers)

/-! ## The lines of a table -/

/-- The notice is the one given when the setting is carried out. The value of a read is whatever was
found. -/
def Setting.Tells {ρ : Type} [NamedRegister ρ] (s : Setting ρ) (n : Notice) : Prop :=
  let name := NamedRegister.name s.register
  let address := NamedRegister.address s.register
  match s.access with
  | .write => n = .registerWrite name address s.value
  | .read => ∃ value, n = .registerRead name address value

namespace Sensor

variable {β ρ : Type} [NamedRegister ρ]

/-- A setting is told of in one line. Only a read that fails leaves no line at all. -/
theorem tells_applyOne [Bus β] (sensor : Sensor) (s : Setting ρ) (b : β) :
    let out := (sensor.applyOne s).run b
    (∃ n, s.Tells n ∧ out.journal.notices = [n]) ∨
      (∃ e, out.result = .error e) ∧ out.journal.notices = [] := by
  intro out
  obtain ⟨access, register, value⟩ := s
  cases access with
  | write =>
    have hrun : out = _ := sensor.run_applyOne_write register value b
    rw [run_writeRegister] at hrun
    rw [hrun]
    exact .inl ⟨_, rfl, rfl⟩
  | read =>
    have hrun : out = _ := sensor.run_readRegister_log (NamedRegister.address register)
      (.registerRead (NamedRegister.name register) (NamedRegister.address register)) b
    rw [hrun]
    dsimp only
    cases (Bus.transact sensor.address [.write [NamedRegister.address register], .read 1] b).1.fault
      with
    | none => exact .inl ⟨_, ⟨_, rfl⟩, rfl⟩
    | some fault => exact .inr ⟨⟨_, rfl⟩, rfl⟩

/-- The log of a table has one line for each of its settings, in order, or for some of them from the
first one on if the table fails. -/
theorem tells_apply [Bus β] (sensor : Sensor) (settings : List (Setting ρ)) (b : β) :
    let out := (sensor.apply settings).run b
    ∃ told rest, settings = told ++ rest ∧ List.Forall₂ Setting.Tells told out.journal.notices ∧
      (out.result = .ok () → rest = []) := by
  -- On the settings still to be carried out, wherever the earlier ones have left the bus.
  induction settings generalizing b with
  | nil => exact ⟨[], [], rfl, .nil, fun _ => rfl⟩
  | cons s settings ih =>
    intro out
    have hcons := sensor.apply_cons (β := β) s settings
    cases hresult : ((sensor.applyOne s).run b).result with
    | error e =>
      have hrun : out = _ :=
        (congrArg (Action.run · b) hcons).trans (Action.run_bind_error hresult)
      rw [hrun]
      rcases sensor.tells_applyOne s b with ⟨n, htells, hnotices⟩ | ⟨-, hnotices⟩
      · refine ⟨[s], settings, rfl, ?_, nofun⟩
        rw [hnotices]
        exact .cons htells .nil
      · refine ⟨[], s :: settings, rfl, ?_, nofun⟩
        rw [hnotices]
        exact .nil
    | ok _ =>
      have hrun : out = _ := (congrArg (Action.run · b) hcons).trans (Action.run_bind_ok hresult)
      rw [hrun]
      rcases sensor.tells_applyOne s b with ⟨n, htells, hnotices⟩ | ⟨⟨e, hfailed⟩, -⟩
      · obtain ⟨told, rest, hsplit, hlines, hall⟩ := ih ((sensor.applyOne s).run b).state
        refine ⟨s :: told, rest, by rw [hsplit, List.cons_append], ?_, hall⟩
        rw [Journal.notices_append, hnotices]
        exact .cons htells hlines
      · rw [hresult] at hfailed
        cases hfailed

/-- Without a failure the registers hold what the table has written. -/
theorem registers_apply_of_clean [RegisterDevice β] {sensor : Sensor} {settings : List (Setting ρ)}
    {b : β} (hclean : ((sensor.apply settings).run b).journal.Clean) :
    registers ((sensor.apply settings).run b).state =
      (registers b).storeAll (settings.filterMap Setting.stored?) := by
  have hreplays := (sensor.closed_replays (β := β) (fun _ => True) relies_of_no_fault).apply
    settings fun _ _ => True.intro
  have hmade := (sensor.follows_apply settings b).transactions_of_clean hclean
  rw [hreplays b hclean, RegisterFile.replay, hmade, List.map_map]
  exact RegisterFile.foldl_applyTo_settings sensor settings (registers b)

end Sensor

/-! ## The two stages -/

namespace Compass

section

variable {β : Type} [Bus β]

theorem follows_boot (settings : CompassSettings) :
    (boot settings : Action β Error Compass).Follows ⟨settings.address⟩
      (settings.wakeup.map Sensor.settingParts ++
        Axis.all.map fun axis => [.write [(Register.offset axis .high).address], .read 2]) := by
  let sensor : Sensor := ⟨settings.address⟩
  have hup (offset : Sample) :
      (do
        let c := ofOffset settings offset
        Action.log (.up c.id sensor.address c.offset c.phase)
        return c : Action β Error Compass).Follows sensor [] :=
    (Action.Follows.log _).bind fun _ => .pure _
  have hload := (sensor.follows_readAxes (β := β) .offset).bind hup
  rw [List.append_nil] at hload
  exact (sensor.follows_apply settings.wakeup).bind fun _ => hload

/-- A start says of its table what the table has to say, and that the compass is up once it is. -/
theorem tells_boot (settings : CompassSettings) (b : β) :
    let out := (boot settings).run b
    ∃ told rest lines, settings.wakeup = told ++ rest ∧ List.Forall₂ Setting.Tells told lines ∧
      match out.result with
      | .error _ => out.journal.notices = lines
      | .ok c => rest = [] ∧
        out.journal.notices = lines ++ [.up c.id settings.address c.offset c.phase] := by
  intro out
  let sensor : Sensor := ⟨settings.address⟩
  obtain ⟨told, rest, hsplit, htells, hall⟩ := sensor.tells_apply settings.wakeup b
  refine ⟨told, rest, _, hsplit, htells, ?_⟩
  have hloaded (b : β) : (sensor.readOffset.run b).journal.notices = [] :=
    (Journal.silent_of_transactions (sensor.entries_readAxes .offset b)).1
  have hrun : out = _ := run_boot settings b
  cases hwoken : ((sensor.apply settings.wakeup).run b).result with
  | error e =>
    rw [hwoken] at hrun
    rw [hrun]
  | ok _ =>
    rw [hwoken] at hrun
    dsimp only at hrun
    cases hread : (sensor.readOffset.run ((sensor.apply settings.wakeup).run b).state).result with
    | error e =>
      rw [hread] at hrun
      rw [hrun]
      dsimp only
      rw [Journal.notices_append, hloaded, List.append_nil]
    | ok offset =>
      rw [hread] at hrun
      rw [hrun]
      refine ⟨hall hwoken, ?_⟩
      rw [Journal.notices_append, Journal.notices_append, hloaded]
      rfl

end

end Compass

namespace RegisterFile

/-- The words of the offset are zero exactly if all six bytes are. -/
theorem isZero_sampleAt (f : RegisterFile) : (f.sampleAt .offset).isZero = true ↔ f.Cleared := by
  rw [Sample.isZero_iff]
  constructor
  · intro hzero
    have hstores := f.stores_sampleAt
    rw [hzero] at hstores
    exact cleared_of_stores_zero hstores
  · intro hcleared
    refine Sample.ext_axis fun axis => ?_
    rw [sampleAt, Sample.along_ofAxes, hcleared axis .high, hcleared axis .low, Sample.along_zero]
    rfl

theorem cleared_iff (f : RegisterFile) :
    f.Cleared ↔ ∀ address ∈ ([0x09, 0x0A, 0x0B, 0x0C, 0x0D, 0x0E] : List Nat),
      f.get address = 0 := by
  constructor
  · intro hcleared address haddress
    simp only [List.mem_cons, List.not_mem_nil, or_false] at haddress
    rcases haddress with rfl | rfl | rfl | rfl | rfl | rfl
    · exact hcleared .x .high
    · exact hcleared .x .low
    · exact hcleared .y .high
    · exact hcleared .y .low
    · exact hcleared .z .high
    · exact hcleared .z .low
  · intro hzero axis half
    cases axis <;> cases half <;> exact hzero _ (by decide)

end RegisterFile

/-- A start goes through a plan, which is the table of settings in order and then the three words of
the offset, high byte first. Either all of its transactions are made and go through, or it stops at
the first that fails and reports that. Nothing is published in either case.

If it succeeds, the registers hold what they held before with just the writes of the table applied.
The compass has the offset that lies there, which may be of the table's own making. It is
uncalibrated if these six bytes are zero, and calibrated otherwise; it has seen no reading, and is
not timed. If it fails, there is nothing in the log but lines of the table. -/
theorem comes_up_as_stored {β : Type} [RegisterDevice β] (settings : CompassSettings) (b : β) :
    let out := (Compass.boot settings).run b
    let send (fault : Option Fault) (parts : List Part) : Transaction :=
      ⟨settings.address, parts, fault⟩
    let plan : List (List Part) :=
      settings.wakeup.map (fun s =>
        match s.access with
        | .write => [.write [s.register.address, s.value]]
        | .read => [.write [s.register.address], .read 1]) ++
      [[.write [0x09], .read 2], [.write [0x0B], .read 2], [.write [0x0D], .read 2]]
    let stored := (registers b).storeAll (settings.wakeup.filterMap Setting.stored?)
    let compass : Compass :=
      { id := settings.id
        sensor := ⟨settings.address⟩
        period := settings.period
        phase :=
          if ∀ address ∈ ([0x09, 0x0A, 0x0B, 0x0C, 0x0D, 0x0E] : List Nat),
            stored.get address = 0 then .uncalibrated else .calibrated
        offset :=
          ⟨BigEndian.ofBytes (stored.get 0x09) (stored.get 0x0A),
            BigEndian.ofBytes (stored.get 0x0B) (stored.get 0x0C),
            BigEndian.ofBytes (stored.get 0x0D) (stored.get 0x0E)⟩
        sample := .zero
        envelope := ⟨.zero, .zero⟩
        timedFrom := none }
    out.journal.events = [] ∧
      ((∃ c, out.result = .ok c) ↔ ∀ t ∈ out.journal.transactions, t.fault = none) ∧
      ((out.result = .ok compass ∧ registers out.state = stored ∧
          out.journal.transactions = plan.map (send none) ∧
          ∃ lines, List.Forall₂ Setting.Tells settings.wakeup lines ∧
            out.journal.notices =
              lines ++ [.up settings.id settings.address compass.offset compass.phase]) ∨
        ∃ before failed after fault, plan = before ++ failed :: after ∧
          out.result = .error (.bus fault) ∧
          out.journal.transactions = before.map (send none) ++ [send (some fault) failed] ∧
          ∃ told rest, settings.wakeup = told ++ rest ∧
            List.Forall₂ Setting.Tells told out.journal.notices) := by
  intro out send plan stored compass
  have hreports := Compass.reports_boot (β := β) settings
  have hplan : plan = settings.wakeup.map Sensor.settingParts ++
      Axis.all.map fun axis => [.write [(Register.offset axis .high).address], .read 2] := rfl
  have hfollows : out.Follows ⟨settings.address⟩ plan := Compass.follows_boot settings b
  obtain ⟨told, rest, lines, hsplit, htells, hlines⟩ := Compass.tells_boot settings b
  refine ⟨(Compass.silent_boot settings b).1, ⟨?_, fun h => hreports.ok h⟩, ?_⟩
  · rintro ⟨c, hok⟩
    exact hreports.clean hok
  · cases hfollows with
    | completed c hok hmade =>
      left
      obtain ⟨woken, hwoken, hclean, hcompass, hregisters⟩ :=
        Compass.boot_of_clean (hreports.clean hok)
      have hstored : registers woken.state = stored := by
        rw [← hwoken] at hclean ⊢
        exact Sensor.registers_apply_of_clean hclean
      have hfound : Compass.ofOffset settings (stored.sampleAt .offset) = compass := by
        refine Compass.ext rfl rfl rfl ?_ rfl rfl rfl rfl
        exact ite_congr (propext (stored.isZero_sampleAt.trans stored.cleared_iff))
          (fun _ => rfl) fun _ => rfl
      have hok' : out.result = .ok compass := by
        rw [← hfound, ← hstored]
        exact hcompass
      rw [hok'] at hlines
      obtain ⟨rfl, hnotices⟩ := hlines
      rw [List.append_nil] at hsplit
      rw [← hsplit] at htells
      exact ⟨hok', hregisters.trans hstored, hmade, lines, htells, hnotices⟩
    | broken before failed after fault hbroken hfailed hmade =>
      right
      rw [hfailed] at hlines
      refine ⟨before, failed, after, fault, hbroken, hfailed, hmade, told, rest, hsplit, ?_⟩
      rw [hlines]
      exact htells

end Magnetometer
