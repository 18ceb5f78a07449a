import Magnetometer.Proofs.Errand
import Magnetometer.Proofs.Steady

/-!
# What a compass leaves alone

Once it is up, a compass writes to its offset registers and to no others, and even to those only
when it stores or clears an offset (`Call.writes_of_errand`). All else that it sends fetches
something.

For the registers this means that a run leaves them as they are, with the exception of what is
written past the compass and of what the device does by itself. It takes a device of which a
transaction, also one that fails, reaches no register but the one that it writes to (`Isolated`);
nothing is said of what a failed store does there. A device that failures leave alone is one of
these (`SteadyDevice.isolated`). `History.get_of_misses` carries a register through a run.

Main statement: `only_offset_registers_touched`.
-/

namespace Magnetometer

/-! ## Registers that nothing reaches but stores -/

/-- The register at an address, seen through `registers`, changes by nothing but what is sent to it,
whether transactions go through or fail. -/
structure Isolated {β : Type} [Bus β] (registers : β → RegisterFile) (address : UInt8) : Prop where
  store : ∀ {device r v : UInt8} {b : β}, r ≠ address →
    (registers (Bus.transact device [.write [r, v]] b).2).get address.toNat =
      (registers b).get address.toNat
  fetch : ∀ {device r : UInt8} {n : Nat} {b : β},
    (registers (Bus.transact device [.write [r], .read n] b).2).get address.toNat =
      (registers b).get address.toNat

/-- On a steady device every register is isolated, since failures reach none at all. -/
theorem SteadyDevice.isolated {β : Type} [SteadyDevice β] (address : UInt8) :
    Isolated (RegisterDevice.registers (β := β)) address where
  store {device r v b} hr := by
    cases h : (Bus.transact device [.write [r, v]] b).1.fault with
    | some fault => rw [registers_refused_store h]
    | none =>
      rw [RegisterDevice.registers_store h]
      exact (RegisterDevice.registers b).get_set_ne v hr
  fetch {device r n b} := by
    cases h : (Bus.transact device [.write [r], .read n] b).1.fault with
    | some fault => rw [registers_refused_fetch h]
    | none => rw [RegisterDevice.registers_fetch h]

namespace Action

variable {β ε α γ : Type} {registers : β → RegisterFile} {address : UInt8}

/-- Whatever fails, the action leaves the register at an address as it was. -/
def Leaves (registers : β → RegisterFile) (address : UInt8) (p : Action β ε α) : Prop :=
  ∀ b, (registers (p.run b).state).get address.toNat = (registers b).get address.toNat

theorem Leaves.bind {p : Action β ε α} {f : α → Action β ε γ} (hp : p.Leaves registers address)
    (hf : ∀ a, (f a).Leaves registers address) : (p >>= f).Leaves registers address := by
  intro b
  cases h : (p.run b).result with
  | error e =>
    rw [run_bind_error h]
    exact hp b
  | ok a =>
    rw [run_bind_ok h]
    exact (hf a _).trans (hp b)

theorem Leaves.tryAll {f : α → Action β ε Unit} :
    ∀ {l : List α}, (∀ a ∈ l, (f a).Leaves registers address) →
      (tryAll f l).Leaves registers address := by
  intro l
  induction l with
  | nil =>
    intro _ b
    rfl
  | cons a l ih =>
    intro hf b
    rw [run_tryAll_cons]
    exact (ih (fun c hc => hf c (List.mem_cons_of_mem _ hc)) _).trans (hf a List.mem_cons_self b)

end Action

namespace Sensor

variable {β : Type} [Bus β] {registers : β → RegisterFile} {address : UInt8}

theorem closed_leaves (sensor : Sensor) {writes : UInt8 → Prop}
    (hisolated : Isolated registers address) (haddress : ¬ writes address) :
    sensor.Closed writes fun {_} (p : Action β Error _) => p.Leaves registers address where
  pure _ := fun _ => rfl
  bind hp hf := .bind hp hf
  report _ := fun _ => rfl
  tryAll hf := .tryAll hf
  store {r} v hr := by
    intro b
    rw [run_writeRegister]
    refine hisolated.store fun heq => ?_
    rw [heq] at hr
    exact haddress hr
  fetch r n := by
    intro b
    rw [run_readBytes]
    exact hisolated.fetch

theorem leaves_errand (sensor : Sensor) {errand : Errand} (hisolated : Isolated registers address)
    (haddress : ¬ errand.Writes address) :
    (errand.perform sensor : Action β Error Unit).Leaves registers address :=
  (sensor.closed_leaves hisolated haddress).errand (fun _ _ _ => rfl) fun _ _ _ => rfl

/-- A transaction with the sensor is a store into a register it is meant for, or a fetch. -/
theorem store_or_fetch {sensor : Sensor} {writes : UInt8 → Prop} {t : Transaction}
    (h : sensor.Traffic writes (.transaction t)) :
    t.address = sensor.address ∧
      ((∃ r v, writes r ∧ t.parts = [.write [r, v]]) ∨
        ∃ r n, t.parts = [.write [r], .read n]) := by
  cases h with
  | store v fault hr => exact ⟨rfl, .inl ⟨_, v, hr, rfl⟩⟩
  | fetch r n fault => exact ⟨rfl, .inr ⟨r, n, rfl⟩⟩

end Sensor

/-! ## What a call sends -/

theorem Journal.mem_of_transaction {j : Journal} {t : Transaction} (h : t ∈ j.transactions) :
    .transaction t ∈ j := by
  obtain ⟨entry, hentry, ht⟩ := List.mem_filterMap.mp h
  cases entry with
  | transaction t' =>
    cases ht
    exact hentry
  | notice n => cases ht
  | event e => cases ht

namespace Call

variable {β : Type} [Board β]

theorem traffic (call : Call β) :
    ∀ t ∈ call.outcome.journal.transactions,
      call.before.compass.sensor.Traffic call.errand.Writes (.transaction t) := by
  intro t ht
  rw [call.runs_errand.transactions] at ht
  exact call.before.compass.sensor.entries_errand call.errand _ _ (Journal.mem_of_transaction ht)

/-- A call that does not go past the compass writes to the offset registers only, and that when an
offset is to be stored or cleared. -/
theorem writes_of_errand (call : Call β) (hcommand : ∀ command, call.command ≠ .sensor command)
    {r : UInt8} (h : call.errand.Writes r) :
    OffsetAddress r ∧ (call.command = .finishCalibration ∨ call.command = .clearCalibration ∨
      call.command = .idleTick ∧ call.EndsPass) := by
  cases hcall : call.command with
  | idleTick =>
    have hstored := errand_of_tick hcall
    rw [errand, hcall, Command.errand] at h hstored
    rcases call.before.tickErrand_cases call.now with
      ⟨_, -, hcase⟩ | ⟨-, hcase⟩ | ⟨-, hcase | ⟨offset, hcase⟩⟩ <;> rw [hcase] at h hstored
    · cases h
    · cases h
    · cases h
    · -- A tick that stores an offset ends a pass.
      split at hstored
      next hends => exact ⟨h, .inr (.inr ⟨rfl, hends⟩)⟩
      next => cases hstored
  | finishCalibration =>
    rw [errand, hcall] at h
    exact ⟨h, .inl rfl⟩
  | clearCalibration =>
    rw [errand, hcall] at h
    exact ⟨h, .inr (.inl rfl)⟩
  | tickNeeded =>
    rw [errand, hcall, Command.errand] at h
    rcases call.before.lineErrand_cases with ⟨_, -, hcase⟩ | ⟨_, -, hcase⟩ <;> rw [hcase] at h <;>
      cases h
  | sensor command => exact absurd hcall (hcommand command)
  | _ =>
    rw [errand, hcall] at h
    cases h

/-- Calls that have nothing to do with the sensor send nothing, and neither does a tick without a
signal. -/
theorem transactions_eq_nil {call : Call β}
    (h : call.command = .heading ∨ call.command = .startCalibration ∨
      call.command = .startTimed ∨ call.command = .tickNeeded ∨
      call.command = .idleTick ∧ Board.dataReady call.before.board ≠ .ok true) :
    call.outcome.journal.transactions = [] := by
  rw [call.runs_errand.transactions]
  rcases h with h | h | h | h | ⟨h, hready⟩ <;> rw [errand, h]
  · rfl
  · rfl
  · rfl
  · rw [Command.errand]
    rcases call.before.lineErrand_cases with ⟨_, -, hcase⟩ | ⟨_, -, hcase⟩ <;> rw [hcase] <;> rfl
  · rw [Command.errand]
    rcases call.before.tickErrand_cases call.now with
      ⟨_, -, hcase⟩ | ⟨-, hcase⟩ | ⟨hhigh, -⟩
    · rw [hcase]
      rfl
    · rw [hcase]
      rfl
    · exact absurd hhigh hready

theorem leaves (call : Call β) {registers : β → RegisterFile} {address : UInt8}
    (hisolated : Isolated registers address) (haddress : ¬ call.errand.Writes address) :
    (registers call.after.board).get address.toNat =
      (registers call.before.board).get address.toNat := by
  have hboard : call.after.board = _ := call.runs_errand.board
  rw [hboard]
  exact call.before.compass.sensor.leaves_errand hisolated haddress _

end Call

/-! ## Registers through a run -/

section

variable {β : Type} [Board β] {registers : β → RegisterFile} {address : UInt8}

/-- Every one of some steps by which a history goes on meets a condition in the situation in which
it is taken. -/
def History.Throughout (P : History β → Step β → Prop) : History β → List (Step β) → Prop
  | _, [] => True
  | h, s :: steps => P h s ∧ (h.extend s).Throughout P steps

theorem History.Throughout.imp {P Q : History β → Step β → Prop} (hPQ : ∀ h s, P h s → Q h s) :
    ∀ {steps : List (Step β)} {h : History β}, h.Throughout P steps → h.Throughout Q steps
  | [], _, _ => True.intro
  | _ :: _, _, ⟨hs, hsteps⟩ => ⟨hPQ _ _ hs, hsteps.imp hPQ⟩

/-- The step does not concern the register at an address: it writes elsewhere, or is a change from
outside that leaves the register alone. -/
def Step.Misses (registers : β → RegisterFile) (address : UInt8) (h : History β) : Step β → Prop
  | .perform now command => ¬ (h.next now command).errand.Writes address
  | .change f =>
    (registers (f h.station.board)).get address.toNat =
      (registers h.station.board).get address.toNat

theorem History.get_extend (hisolated : Isolated registers address) {h : History β} {s : Step β}
    (hmisses : s.Misses registers address h) :
    (registers (h.extend s).station.board).get address.toNat =
      (registers h.station.board).get address.toNat := by
  cases s with
  | perform now command => exact (h.next now command).leaves hisolated hmisses
  | change f => exact hmisses

/-- A register that no step concerns keeps what it holds. -/
theorem History.get_of_misses (hisolated : Isolated registers address) :
    ∀ {steps : List (Step β)} {h : History β},
      h.Throughout (fun h s => s.Misses registers address h) steps →
        (registers (steps.foldl extend h).station.board).get address.toNat =
          (registers h.station.board).get address.toNat := by
  intro steps
  induction steps with
  | nil =>
    intro h _
    rfl
  | cons s steps ih =>
    rintro h ⟨hs, hsteps⟩
    rw [List.foldl_cons, ih hsteps]
    exact get_extend hisolated hs

/-- Nobody but the compass has to do with the register at an address. -/
def Step.Spares (registers : β → RegisterFile) (address : UInt8) (h : History β) : Step β → Prop
  | .perform _ (.sensor command) => ¬ command.Writes address
  | .perform _ _ => True
  | .change f =>
    (registers (f h.station.board)).get address.toNat =
      (registers h.station.board).get address.toNat

theorem Step.Spares.misses {h : History β} {s : Step β} (hs : s.Spares registers address h)
    (haddress : ¬ OffsetAddress address) : s.Misses registers address h := by
  cases s with
  | change f => exact hs
  | perform now command =>
    intro hwrites
    by_cases hsensor : ∃ c, command = .sensor c
    · obtain ⟨c, rfl⟩ := hsensor
      exact hs hwrites
    · have hwritten := (h.next now command).writes_of_errand (fun c hc => hsensor ⟨c, hc⟩) hwrites
      exact haddress hwritten.1

/-- Whatever fails, a compass speaks to no other device than its own, and sends nothing but fetches
and stores into the offset registers. It stores at the end of a pass or when a calibration is ended
or cleared, and sends nothing at all for a heading, a start, a look at the line, or a tick without a
signal. So every other register keeps what it held when the compass came up, as long as nobody else
writes to it and the device does not change it. -/
theorem only_offset_registers_touched {settings : CompassSettings} {board : β}
    {steps : List (Step β)} {h : History β} (run : History.run? settings board steps = some h) :
    (∀ now command, (∀ c, command ≠ .sensor c) →
      let call := h.next now command
      (∀ t ∈ call.outcome.journal.transactions, t.address = settings.address ∧
        ((∃ r v, OffsetAddress r ∧ t.parts = [.write [r, v]]) ∨
          ∃ r n, t.parts = [.write [r], .read n])) ∧
        (∀ t ∈ call.outcome.journal.transactions, ∀ r v, t.parts = [.write [r, v]] →
          command = .finishCalibration ∨ command = .clearCalibration ∨
            command = .idleTick ∧ call.EndsPass) ∧
        (command = .heading ∨ command = .startCalibration ∨ command = .startTimed ∨
          command = .tickNeeded ∨
          command = .idleTick ∧ Board.dataReady h.station.board ≠ .ok true →
            call.outcome.journal.transactions = [])) ∧
      ∃ booted, History.start? settings board = some booted ∧
        ∀ (registers : β → RegisterFile) (address : UInt8), Isolated registers address →
          ¬ OffsetAddress address →
          booted.Throughout (fun h s => s.Spares registers address h) steps →
          (registers h.station.board).get address.toNat =
            (registers booted.station.board).get address.toNat := by
  constructor
  · intro now command hcommand call
    have hsensor : call.before.compass.sensor.address = settings.address :=
      congrArg (fun setup => setup.2.1.address) (History.setup_of_run run)
    refine ⟨fun t ht => ?_, fun t ht r v hparts => ?_, fun hsilent => ?_⟩
    · obtain ⟨haddress, ⟨r, v, hr, hparts⟩ | hfetch⟩ := Sensor.store_or_fetch (call.traffic t ht)
      · have hwritten := call.writes_of_errand hcommand hr
        exact ⟨haddress.trans hsensor, .inl ⟨r, v, hwritten.1, hparts⟩⟩
      · exact ⟨haddress.trans hsensor, .inr hfetch⟩
    · obtain ⟨-, ⟨r', v', hr, -⟩ | ⟨r', n, hfetch⟩⟩ := Sensor.store_or_fetch (call.traffic t ht)
      · exact (call.writes_of_errand hcommand hr).2
      · rw [hparts] at hfetch
        cases hfetch
    · exact Call.transactions_eq_nil hsilent
  · obtain ⟨booted, hstart, rfl⟩ := Option.map_eq_some_iff.mp run
    refine ⟨booted, hstart, fun registers address hisolated haddress hspares => ?_⟩
    exact History.get_of_misses hisolated (hspares.imp fun _ _ hs => hs.misses haddress)

/-- A clearing fails, a tick ends a pass although the bus gives out on the way, and the second
control register is written to past the compass. The first one keeps what it was woken with. -/
theorem only_offset_registers_touched_on_failing_bus :
    let steps : List (Step Bench) :=
      [.change fun b => { b.measure ⟨40, -3, 7⟩ with writeFaults := fun _ => some .overrun },
        .perform 0 .startTimed, .perform 1 .clearCalibration,
        .change fun b => { b with writeFaults := fun _ => none, countdown := some (5, .bus) },
        .perform 20000 .idleTick, .perform 20001 (.sensor (.writeRegister 0x11 0))]
    ∃ h booted : History Bench, History.run? {} {} steps = some h ∧
      History.start? {} {} = some booted ∧
      h.journal.transactions.filterMap Transaction.fault = [.overrun, .bus] ∧
      h.station.board.registers.get 0x11 ≠ booted.station.board.registers.get 0x11 ∧
      h.station.board.registers.get 0x10 = booted.station.board.registers.get 0x10 ∧
      (h.next 30000 .heading).outcome.journal.transactions = [] ∧
      ∀ t ∈ (h.next 30000 .finishCalibration).outcome.journal.transactions,
        t.address = factoryAddress := by
  intro steps
  have run : History.run? {} ({} : Bench) steps = some _ := rfl
  have hstart : History.start? {} ({} : Bench) = some _ := rfl
  obtain ⟨hcalls, booted, hbooted, hkeeps⟩ := only_offset_registers_touched run
  obtain rfl := Option.some.inj (hstart.symm.trans hbooted)
  refine ⟨_, _, run, hstart, by decide, by decide, ?_, ?_, fun t ht => ?_⟩
  · refine hkeeps Bench.registers 0x10 (SteadyDevice.isolated _) (by decide) ?_
    have hother : (0x11 : UInt8) ≠ 0x10 := by decide
    exact ⟨rfl, True.intro, True.intro, rfl, True.intro, hother, True.intro⟩
  · exact (hcalls 30000 .heading nofun).2.2 (.inl rfl)
  · exact ((hcalls 30000 .finishCalibration nofun).1 t ht).1

end

end Magnetometer
