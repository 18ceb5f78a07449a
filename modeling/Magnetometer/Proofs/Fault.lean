import Magnetometer.Bench
import Magnetometer.Proofs.Errand

/-!
# Faults of the bus

What an operation says of a failure is what has happened on the board (`Outcome.Tells`): a fault of
the bus if a transaction failed, and then the first one; a fault of the line if the line could not
be read; a foreign part if one identified itself. Nothing of this is kept back, and nothing made up.

After a transaction that failed, nothing more is sent, unless an offset is being stored
(`stops_or_stores`). Everything said here is said of errands, and so of calls.

Main statement: `first_fault_reported`.
-/

namespace Magnetometer

/-- The outcome fails as the board has failed: with the first fault of the bus, with a fault of the
line, of which only certain ones are at hand, or because of a foreign part. -/
structure Outcome.Tells {σ ε α : Type} (out : Outcome σ ε α) (wrap : Error → ε)
    (pin : PinFault → Prop) (foreign : UInt8 → Prop) : Prop where
  bus : ∀ fault, out.result = .error (wrap (.bus fault)) ↔ out.journal.firstFault = some fault
  dataReady : ∀ fault, out.result = .error (wrap (.dataReady fault)) ↔ pin fault
  silent : ∀ fault, pin fault → out.journal.transactions = []
  invalidDevice : ∀ id, out.result = .error (wrap (.invalidDevice id)) ↔ foreign id

/-- The transactions are those of storing an offset, and of what went through before. -/
def Journal.EndsStoring (β : Type) [Bus β] (j : Journal) (sensor : Sensor) (offset : Sample) :
    Prop :=
  ∃ (earlier : List Transaction) (b : β), (∀ t ∈ earlier, t.fault = none) ∧
    j.transactions = earlier ++ ((sensor.writeOffset offset).run b).journal.transactions

theorem Action.Reports.tells {σ α : Type} {p : Action σ Error α} (hp : p.Reports) (s : σ)
    {pin : PinFault → Prop} {foreign : UInt8 → Prop} (hpin : ∀ fault, ¬ pin fault)
    (hforeign : ∀ id, ¬ foreign id) : (p.run s).Tells id pin foreign where
  bus := hp.bus_iff s
  dataReady fault := by
    refine ⟨fun h => ?_, fun h => absurd h (hpin fault)⟩
    obtain ⟨_, hbus⟩ := hp.error_eq_bus h
    cases hbus
  silent fault h := absurd h (hpin fault)
  invalidDevice id := by
    refine ⟨fun h => ?_, fun h => absurd h (hforeign id)⟩
    obtain ⟨_, hbus⟩ := hp.error_eq_bus h
    cases hbus

namespace Sensor

variable {β : Type} [Bus β]

/-! ## Commands for the sensor -/

/-- A foreign part has identified itself, which only a probe objects to. -/
def Foreign (sensor : Sensor) (b : β) (command : SensorCommand) (id : UInt8) : Prop :=
  command = .probe ∧ (sensor.whoAmI.run b).result = .ok id ∧ id ≠ identification

theorem tells_probe (sensor : Sensor) (b : β) :
    (sensor.probe.run b).Tells id (fun _ => False) (sensor.Foreign b .probe) := by
  have hreports : (sensor.whoAmI : Action β Error UInt8).Reports :=
    sensor.closed_reports.readRegister _
  unfold probe
  cases hread : (sensor.whoAmI.run b).result with
  | error e =>
    obtain ⟨fault, rfl⟩ := hreports.error_eq_bus hread
    have hfirst := (hreports.bus_iff b fault).mp hread
    rw [Action.run_bind_error hread]
    refine ⟨fun fault' => ?_, fun _ => ⟨nofun, nofun⟩, nofun, fun _ => ⟨nofun, ?_⟩⟩
    · rw [hfirst, id_eq, Except.error.injEq, Error.bus.injEq, Option.some.injEq]
    · rintro ⟨-, h, -⟩
      rw [hread] at h
      cases h
  | ok found =>
    have hfirst := Journal.firstFault_eq_none.mpr (hreports.clean hread)
    rw [Action.run_bind_ok hread]
    by_cases hgenuine : found = identification
    · simp only [if_pos hgenuine, Action.run_pure, List.append_nil]
      refine ⟨fun fault => ?_, fun _ => ⟨nofun, nofun⟩, nofun, fun id => ⟨nofun, ?_⟩⟩
      · rw [hfirst]
        exact ⟨nofun, nofun⟩
      · rintro ⟨-, h, hforeign⟩
        rw [hread] at h
        cases h
        exact absurd hgenuine hforeign
    · simp only [if_neg hgenuine, Action.run_fail, List.append_nil]
      refine ⟨fun fault => ?_, fun _ => ⟨nofun, nofun⟩, nofun, fun id => ⟨fun h => ?_, ?_⟩⟩
      · rw [hfirst]
        exact ⟨nofun, nofun⟩
      · cases h
        exact ⟨rfl, hread, hgenuine⟩
      · rintro ⟨-, h, -⟩
        rw [hread] at h
        cases h
        rfl

theorem tells_perform (sensor : Sensor) (command : SensorCommand) (b : β) :
    ((command.perform sensor).run b).Tells id (fun _ => False) (sensor.Foreign b command) := by
  by_cases hprobe : command = .probe
  · obtain ⟨hbus, hpin, hsilent, hforeign⟩ := sensor.tells_probe b
    rw [hprobe, SensorCommand.perform, Action.run_map]
    exact ⟨fun fault => error_of_map.trans (hbus fault),
      fun fault => error_of_map.trans (hpin fault), hsilent,
      fun id => error_of_map.trans (hforeign id)⟩
  · exact (sensor.reports_perform hprobe).tells b (fun _ h => h) fun _ h => hprobe h.1

theorem stops_perform (sensor : Sensor) (command : SensorCommand) (b : β) :
    ((command.perform sensor).run b).journal.StopsAtFault ∨
      ∃ offset, command = .writeOffset offset := by
  by_cases hstore : ∃ offset, command = .writeOffset offset
  · exact .inr hstore
  · have hstops : (command.perform sensor : Action β Error Answer).Stops :=
      (sensor.sequential_stops command.Writes).perform (fun _ _ => .fail _) fun offset h =>
        absurd ⟨offset, h⟩ hstore
    exact .inl (hstops b).1

/-! ## Errands -/

theorem tells_errand (sensor : Sensor) (errand : Errand) (b : β) :
    ((errand.perform sensor).run b).Tells id (fun fault => errand = .unreadable fault) fun id =>
      ∃ command, errand = .ask command ∧ sensor.Foreign b command id := by
  cases errand with
  | unreadable fault =>
    refine ⟨fun _ => ⟨nofun, nofun⟩, fun fault' => ?_, fun _ _ => rfl, fun _ => ⟨nofun, nofun⟩⟩
    rw [Errand.unreadable.injEq]
    exact ⟨fun h => by cases h; rfl, fun h => by rw [h]; rfl⟩
  | ask command =>
    obtain ⟨hbus, hpin, hsilent, hforeign⟩ := sensor.tells_perform command b
    rw [Errand.perform, Action.run_map]
    refine ⟨fun fault => error_of_map.trans (hbus fault), fun fault => ⟨fun h => ?_, nofun⟩, nofun,
      fun id => (error_of_map.trans (hforeign id)).trans ⟨fun h => ⟨command, rfl, h⟩, ?_⟩⟩
    · exact absurd (error_of_map.mp h) fun h => (hpin fault).mp h
    · rintro ⟨_, h, hforeign⟩
      cases h
      exact hforeign
  | _ =>
    refine Action.Reports.tells ?_ b nofun nofun
    exact (sensor.closed_reports.mono fun _ _ => True.intro).errand nofun nofun

theorem stops_or_stores (sensor : Sensor) (errand : Errand) (b : β) :
    ((errand.perform sensor).run b).journal.StopsAtFault ∨
      ∃ offset, errand.stored? = some offset ∧
        ((errand.perform sensor).run b).journal.EndsStoring β sensor offset := by
  have hsequential := sensor.sequential_stops (β := β) errand.Writes
  cases hstored : errand.stored? with
  | none =>
    have hstops : (errand.perform sensor : Action β Error Unit).Stops := by
      refine hsequential.errand (fun _ _ => .fail _) (fun _ _ => .fail _) fun offset h => ?_
      rw [hstored] at h
      cases h
    exact .inl (hstops b).1
  | some offset =>
    cases errand with
    | store _ =>
      cases hstored
      exact .inr ⟨offset, rfl, [], b, nofun, rfl⟩
    | fetchThenStore _ =>
      cases hstored
      have hread : (sensor.readSample : Action β Error Sample).Stops := hsequential.readAxes _
      obtain ⟨hstops, hclean⟩ := hread b
      rw [Errand.perform]
      cases hresult : (sensor.readSample.run b).result with
      | error e =>
        rw [Action.run_bind_error hresult]
        exact .inl hstops
      | ok sample =>
        -- The offset is stored only after the reading has gone through.
        rw [Action.run_bind_ok hresult]
        refine .inr ⟨offset, rfl, _, (sensor.readSample.run b).state, hclean sample hresult, ?_⟩
        exact Journal.transactions_append _ _
    | ask command =>
      cases command with
      | writeOffset _ =>
        cases hstored
        rw [Errand.perform, Action.run_map, SensorCommand.perform, Action.run_map]
        exact .inr ⟨offset, rfl, [], b, nofun, rfl⟩
      | _ => cases hstored
    | _ => cases hstored

end Sensor

/-! ## Calls and starts -/

section

variable {β : Type}

theorem Errand.Explains.tells [Bus β] {errand : Errand} {s : Station β} {ε α : Type}
    {wrap : Error → ε} {out : Outcome (Station β) ε α} (h : errand.Explains s wrap out)
    {pin : PinFault → Prop} {foreign : UInt8 → Prop}
    (htells : ((errand.perform s.compass.sensor).run s.board).Tells id pin foreign) :
    out.Tells wrap pin foreign where
  bus fault := by
    rw [h.failure, Journal.firstFault, h.transactions]
    exact htells.bus fault
  dataReady fault := (h.failure _).trans (htells.dataReady fault)
  silent fault hfault := h.transactions.trans (htells.silent fault hfault)
  invalidDevice id := (h.failure _).trans (htells.invalidDevice id)

/-- The call reads the data-ready line, and fails to. -/
def Call.Unreadable [Board β] (call : Call β) (fault : PinFault) : Prop :=
  (call.command = .idleTick ∨ call.command = .tickNeeded) ∧
    Board.dataReady call.before.board = .error fault

/-- The call is a probe, and a foreign part has identified itself. -/
def Call.Foreign [Board β] (call : Call β) (id : UInt8) : Prop :=
  call.command = .sensor .probe ∧
    (call.before.compass.sensor.whoAmI.run call.before.board).result = .ok id ∧
    id ≠ identification

theorem Call.tells [Board β] (call : Call β) :
    call.outcome.Tells Refusal.error call.Unreadable call.Foreign := by
  have htells := call.before.compass.sensor.tells_errand call.errand call.before.board
  obtain ⟨hbus, hpin, hsilent, hforeign⟩ := call.runs_errand.tells htells
  refine ⟨hbus, fun fault => (hpin fault).trans errand_eq_unreadable,
    fun fault h => hsilent fault (errand_eq_unreadable.mpr h),
    fun id => (hforeign id).trans ⟨?_, ?_⟩⟩
  · rintro ⟨_, herrand, rfl, hforeign⟩
    exact ⟨errand_eq_probe.mp herrand, hforeign⟩
  · rintro ⟨hcommand, hforeign⟩
    exact ⟨.probe, errand_eq_probe.mpr hcommand, rfl, hforeign⟩

/-- Nothing is sent after a failure but the rest of an offset. -/
theorem Call.stops_or_stores [Board β] (call : Call β) :
    call.outcome.journal.StopsAtFault ∨ ∃ offset,
      (call.command = .sensor (.writeOffset offset) ∨
        offset = call.after.compass.offset ∧
          (call.command = .finishCalibration ∨ call.command = .idleTick ∧ call.EndsPass)) ∧
        call.outcome.journal.EndsStoring β call.before.compass.sensor offset := by
  have htransactions := call.runs_errand.transactions
  rw [Journal.StopsAtFault, htransactions]
  rcases call.before.compass.sensor.stops_or_stores call.errand call.before.board with
    hstops | ⟨offset, hstored, earlier, b, hclean, hstores⟩
  · exact .inl hstops
  · exact .inr ⟨offset, stored_of_errand hstored, earlier, b, hclean, htransactions.trans hstores⟩

theorem Compass.stops_boot [Bus β] (settings : CompassSettings) :
    (Compass.boot settings : Action β Error Compass).Stops := by
  have hstops := (⟨settings.address⟩ : Sensor).sequential_stops (β := β) fun _ => True
  refine .bind (hstops.apply _ fun _ _ => True.intro) fun _ => ?_
  exact .bind (hstops.readAxes _) fun _ => .bind (.log _) fun _ => .pure _

end

/-- Whatever fails and however often, an operation reports a fault of the bus exactly if one of its
transactions failed, and then the first one; a fault of the line exactly if it could not read the
line, and then it has sent nothing; and a foreign part only when it probes and has been told so.
After a failure it sends nothing more but the rest of an offset, which is sent in full in any
case. -/
theorem first_fault_reported {β γ ρ : Type} [Bus β] [Board γ] [NamedRegister ρ] :
    (∀ (sensor : Sensor) (command : SensorCommand) (b : β),
      let out := (command.perform sensor).run b
      out.Tells id (fun _ => False) (sensor.Foreign b command) ∧
        (out.journal.StopsAtFault ∨ ∃ offset, command = .writeOffset offset)) ∧
      (∀ (sensor : Sensor) (settings : List (Setting ρ)) (b : β),
        let out := (sensor.apply settings).run b
        out.Tells id (fun _ => False) (fun _ => False) ∧ out.journal.StopsAtFault) ∧
      (∀ (sensor : Sensor) (registers : List ρ) (b : β),
        let out := (sensor.dump registers).run b
        out.Tells id (fun _ => False) (fun _ => False) ∧ out.journal.StopsAtFault) ∧
      (∀ (sensor : Sensor) (offset : Sample) (b : β),
        ((sensor.writeOffset offset).run b).journal.transactions.length = 6) ∧
      (∀ (settings : CompassSettings) (b : β),
        let out := (Compass.boot settings).run b
        out.Tells id (fun _ => False) (fun _ => False) ∧ out.journal.StopsAtFault) ∧
      ∀ call : Call γ,
        call.outcome.Tells Refusal.error call.Unreadable call.Foreign ∧
          (call.outcome.journal.StopsAtFault ∨ ∃ offset,
            (call.command = .sensor (.writeOffset offset) ∨
              offset = call.after.compass.offset ∧
                (call.command = .finishCalibration ∨ call.command = .idleTick ∧ call.EndsPass)) ∧
              call.outcome.journal.EndsStoring γ call.before.compass.sensor offset) := by
  refine ⟨?_, ?_, ?_, ?_, ?_, fun call => ⟨call.tells, call.stops_or_stores⟩⟩
  · intro sensor command b
    exact ⟨sensor.tells_perform command b, sensor.stops_perform command b⟩
  · intro sensor settings b
    have hstops := (sensor.sequential_stops (β := β) fun _ => True).apply settings fun _ _ =>
      True.intro
    exact ⟨(sensor.reports_apply settings).tells b (fun _ h => h) fun _ h => h, (hstops b).1⟩
  · intro sensor registers b
    have hreports := (sensor.closed_reports (β := β)).dump registers
    have hstops := (sensor.sequential_stops (β := β) fun _ => True).dump registers
    exact ⟨hreports.tells b (fun _ h => h) fun _ h => h, (hstops b).1⟩
  · intro sensor offset b
    have hparts := congrArg List.length (sensor.parts_writeOffset offset b)
    rwa [List.length_map, List.length_map] at hparts
  · intro settings b
    exact ⟨(Compass.reports_boot settings).tells b (fun _ h => h) fun _ h => h,
      (Compass.stops_boot settings b).1⟩

/-- The tick that ends a pass meets two failures while it stores the offset. It sends the rest all
the same, and reports the first of them. -/
theorem first_fault_reported_of_torn_offset :
    let compass : Compass := { Compass.ofOffset {} .zero with
      phase := .calibrating, envelope := .seeded ⟨300, -2, 7⟩, timedFrom := some 0 }
    let board : Bench := (Bench.measure ⟨5, 400, -9⟩ {}).setWriteFault 0x09 (some .overrun)
      |>.setWriteFault 0x0E (some .bus)
    let call : Call Bench := ⟨20000, .idleTick, ⟨compass, board⟩⟩
    call.EndsPass ∧ call.outcome.journal.transactions.length = 9 ∧
      call.outcome.journal.transactions.filterMap Transaction.fault = [.overrun, .bus] ∧
      call.outcome.result = .error (.error (.bus .overrun)) := by
  intro compass board call
  obtain ⟨-, -, -, -, -, hcalls⟩ := first_fault_reported (β := Bench) (γ := Bench) (ρ := Register)
  refine ⟨by decide, by decide, by decide, ?_⟩
  exact ((hcalls call).1.bus .overrun).mpr (by decide)

end Magnetometer
