import Magnetometer.Command
import Magnetometer.Proofs.Action

/-!
# What goes over the bus

A sensor makes two kinds of transactions, and all its operations are composed of them. So a property
of actions that holds of both kinds and that composition hands on (`Sensor.Closed`) holds of every
operation: `Closed.perform` says so of a command, and the lemmas before it of the operations
that a compass uses. Only storing an offset goes on after a failure; a property that gets lost
there holds at least of everything else (`Sensor.Sequential`).

Main statements: `entries_perform`, the entries that a command can bring into the journal,
`reports_perform`, by which a command fails only on a failed transaction, and `sequential_stops`, by
which nothing follows such a one.
-/

namespace Magnetometer

/-- The addresses at which the device keeps its offset, 0x09 to 0x0E. -/
def OffsetAddress (address : UInt8) : Prop := 0x09 ≤ address ∧ address ≤ 0x0E

instance (address : UInt8) : Decidable (OffsetAddress address) :=
  inferInstanceAs (Decidable (_ ∧ _))

theorem offsetAddress_offset (axis : Axis) (half : Half) :
    OffsetAddress (Register.offset axis half).address := by
  cases axis <;> cases half <;> decide

/-- The registers into which a list of settings writes. -/
def Setting.Writes {ρ : Type} [NamedRegister ρ] (settings : List (Setting ρ)) (r : UInt8) : Prop :=
  ∃ s ∈ settings, s.access = .write ∧ NamedRegister.address s.register = r

/-- The registers into which a command for the sensor writes. -/
def SensorCommand.Writes : SensorCommand → UInt8 → Prop
  | .init, r => Setting.Writes Setting.wakeup r
  | .standby, r => Setting.Writes Setting.standby r
  | .writeRegister register _, r => register = r
  | .writeOffset _, r => OffsetAddress r
  | .apply settings, r => Setting.Writes settings r
  | _, _ => False

namespace Sensor

/-- The bytes of an offset are those of its words, each with its register. -/
theorem mem_offsetBytes {offset : Sample} {p : UInt8 × UInt8} :
    p ∈ offsetBytes offset ↔ ∃ axis half,
      p = ((Register.offset axis half).address, BigEndian.byte (offset.along axis) half) := by
  rw [offsetBytes, List.mem_flatMap]
  constructor
  · rintro ⟨axis, -, hp⟩
    rcases List.mem_cons.mp hp with hlow | hp
    · exact ⟨axis, .low, hlow⟩
    · exact ⟨axis, .high, List.mem_singleton.mp hp⟩
  · rintro ⟨axis, half, rfl⟩
    refine ⟨axis, axis.mem_all, ?_⟩
    cases half with
    | low => exact List.mem_cons_self
    | high => exact List.mem_cons_of_mem _ List.mem_cons_self

variable {β ρ : Type} [Bus β] [NamedRegister ρ]

/-! ## The two kinds of transactions -/

theorem run_writeRegister (sensor : Sensor) (r v : UInt8) (b : β) :
    (sensor.writeRegister r v).run b =
      ⟨match (Bus.transact sensor.address [.write [r, v]] b).1.fault with
        | none => .ok ()
        | some fault => .error (.bus fault),
        (Bus.transact sensor.address [.write [r, v]] b).2,
        [.transaction ⟨sensor.address, [.write [r, v]],
          (Bus.transact sensor.address [.write [r, v]] b).1.fault⟩]⟩ := by
  unfold writeRegister transact
  rw [Action.run_bind]
  dsimp only
  cases (Bus.transact sensor.address [.write [r, v]] b).1.fault <;> rfl

theorem run_readBytes (sensor : Sensor) (r : UInt8) (n : Nat) (b : β) :
    (sensor.readBytes r n).run b =
      ⟨match (Bus.transact sensor.address [.write [r], .read n] b).1.fault with
        | none => .ok (Bus.transact sensor.address [.write [r], .read n] b).1.received.flatten
        | some fault => .error (.bus fault),
        (Bus.transact sensor.address [.write [r], .read n] b).2,
        [.transaction ⟨sensor.address, [.write [r], .read n],
          (Bus.transact sensor.address [.write [r], .read n] b).1.fault⟩]⟩ := by
  unfold readBytes transact
  rw [Action.run_bind]
  dsimp only
  cases (Bus.transact sensor.address [.write [r], .read n] b).1.fault <;> rfl

/-! ## Properties that composition hands on -/

/-- A property of actions that holds of what a sensor does in one step, writing into certain
registers only, and that sequences take over from their parts. -/
structure Sequential (sensor : Sensor) (writes : UInt8 → Prop)
    (C : {α : Type} → Action β Error α → Prop) : Prop where
  pure : ∀ {α : Type} (a : α), C (pure a)
  bind : ∀ {α γ : Type} {p : Action β Error α} {f : α → Action β Error γ},
    C p → (∀ a, C (f a)) → C (p >>= f)
  report : ∀ {n : Notice}, n.level = .debug → C (Action.log n)
  store : ∀ {r : UInt8} (v : UInt8), writes r → C (sensor.writeRegister r v)
  fetch : ∀ (r : UInt8) (n : Nat), C (sensor.readBytes r n)

/-- A property that going on after failures hands on as well. -/
structure Closed (sensor : Sensor) (writes : UInt8 → Prop)
    (C : {α : Type} → Action β Error α → Prop) : Prop extends Sequential sensor writes C where
  tryAll : ∀ {α : Type} {f : α → Action β Error Unit} {l : List α},
    (∀ a ∈ l, C (f a)) → C (Action.tryAll f l)

namespace Sequential

variable {sensor : Sensor} {writes : UInt8 → Prop} {C : {α : Type} → Action β Error α → Prop}

theorem map (h : sensor.Sequential writes C) {α γ : Type} (f : α → γ) {p : Action β Error α}
    (hp : C p) : C (f <$> p) := by
  rw [map_eq_pure_bind]
  exact h.bind hp fun a => h.pure (f a)

theorem forM (h : sensor.Sequential writes C) {α : Type} {f : α → Action β Error PUnit} :
    ∀ (l : List α), (∀ a ∈ l, C (f a)) → C (l.forM f)
  | [], _ => h.pure _
  | a :: l, hf =>
    h.bind (hf a List.mem_cons_self) fun _ => h.forM l fun b hb => hf b (List.mem_cons_of_mem _ hb)

theorem readRegister (h : sensor.Sequential writes C) (r : UInt8) : C (sensor.readRegister r) :=
  h.bind (h.fetch r 1) fun _ => h.pure _

theorem readSigned (h : sensor.Sequential writes C) (r : UInt8) : C (sensor.readSigned r) :=
  h.bind (h.readRegister r) fun _ => h.pure _

theorem readWord (h : sensor.Sequential writes C) (r : UInt8) : C (sensor.readWord r) :=
  h.bind (h.fetch r 2) fun _ => h.pure _

theorem readAxes (h : sensor.Sequential writes C) (block : Axis → Half → Register) :
    C (sensor.readAxes block) :=
  h.bind (h.readWord _) fun _ => h.bind (h.readWord _) fun _ => h.bind (h.readWord _) fun _ =>
    h.pure _

theorem applyOne (h : sensor.Sequential writes C) (s : Setting ρ)
    (hw : s.access = .write → writes (NamedRegister.address s.register)) :
    C (sensor.applyOne s) := by
  unfold Sensor.applyOne
  split
  next hs => exact h.bind (h.report rfl) fun _ => h.store _ (hw hs)
  next => exact h.bind (h.readRegister _) fun _ => h.report rfl

theorem apply (h : sensor.Sequential writes C) (settings : List (Setting ρ))
    (hw : ∀ r, Setting.Writes settings r → writes r) : C (sensor.apply settings) := by
  refine h.forM settings fun s hs => h.applyOne s fun hs' => ?_
  exact hw _ ⟨s, hs, hs', rfl⟩

theorem dump (h : sensor.Sequential writes C) (registers : List ρ) :
    C (sensor.dump registers) := by
  refine h.forM registers fun r _ => ?_
  exact h.bind (h.readRegister _) fun _ => h.report rfl

/-- What sequences take over holds of every command, provided that it holds of refusing a foreign
part and of storing an offset, where the command may come to that. -/
theorem perform {command : SensorCommand} (h : sensor.Sequential command.Writes C)
    (hfail : command = .probe →
      ∀ id, C (Action.fail (.invalidDevice id) : Action β Error UInt8))
    (hstore : ∀ offset, command = .writeOffset offset →
      C (sensor.writeOffset offset : Action β Error Unit)) :
    C (command.perform sensor) := by
  cases command with
  | whoAmI => exact h.map _ (h.readRegister _)
  | probe =>
    -- The one operation that may fail although its transactions went through.
    refine h.map _ (h.bind (h.readRegister _) fun id => ?_)
    split
    · exact h.pure id
    · exact hfail rfl id
  | init => exact h.map _ (h.apply _ fun _ hr => hr)
  | standby =>
    refine h.map _ (h.bind (h.apply _ fun _ hr => hr) fun _ => ?_)
    exact h.bind (h.readRegister _) fun _ => h.pure _
  | mode => exact h.map _ (h.bind (h.readRegister _) fun _ => h.pure _)
  | readRegister r => exact h.map _ (h.readRegister r)
  | writeRegister r v => exact h.map _ (h.store v rfl)
  | readWord r => exact h.map _ (h.readWord r)
  | readSigned r => exact h.map _ (h.readSigned r)
  | readBytes r n => exact h.map _ (h.fetch r n)
  | readSample => exact h.map _ (h.readAxes _)
  | readOffset => exact h.map _ (h.readAxes _)
  | writeOffset offset => exact h.map _ (hstore offset rfl)
  | temperature => exact h.map _ (h.readSigned _)
  | dataStatus => exact h.map _ (h.bind (h.readRegister _) fun _ => h.pure _)
  | apply settings => exact h.map _ (h.apply settings fun _ hr => hr)
  | dump registers => exact h.map _ (h.dump registers)

end Sequential

namespace Closed

variable {sensor : Sensor} {writes : UInt8 → Prop} {C : {α : Type} → Action β Error α → Prop}

theorem mono {writes' : UInt8 → Prop} (h : sensor.Closed writes C)
    (hw : ∀ r, writes' r → writes r) : sensor.Closed writes' C :=
  { h with store := fun v hr => h.store v (hw _ hr) }

theorem writeOffset (h : sensor.Closed writes C) (offset : Sample)
    (hw : ∀ r, OffsetAddress r → writes r) : C (sensor.writeOffset offset) := by
  refine h.tryAll fun p hp => h.store p.2 (hw p.1 ?_)
  obtain ⟨axis, half, rfl⟩ := mem_offsetBytes.mp hp
  exact offsetAddress_offset axis half

/-- What is closed holds of every command, provided that it holds of refusing a foreign part. -/
theorem perform {command : SensorCommand} (h : sensor.Closed command.Writes C)
    (hfail : command = .probe →
      ∀ id, C (Action.fail (.invalidDevice id) : Action β Error UInt8)) :
    C (command.perform sensor) := by
  refine h.toSequential.perform hfail fun offset hcommand => ?_
  rw [hcommand] at h
  exact h.writeOffset offset fun _ hr => hr

end Closed

/-! ## The journal of an operation -/

/-- The entries that a sensor can bring into a journal, if it writes into certain registers only. -/
inductive Traffic (sensor : Sensor) (writes : UInt8 → Prop) : Entry → Prop
  | store {r : UInt8} (v : UInt8) (fault : Option Fault) :
    writes r → Traffic sensor writes (.transaction ⟨sensor.address, [.write [r, v]], fault⟩)
  | fetch (r : UInt8) (n : Nat) (fault : Option Fault) :
    Traffic sensor writes (.transaction ⟨sensor.address, [.write [r], .read n], fault⟩)
  | report {n : Notice} : n.level = .debug → Traffic sensor writes (.notice n)

theorem closed_entries (sensor : Sensor) (writes : UInt8 → Prop) :
    sensor.Closed writes fun {_} (p : Action β Error _) => p.Entries (sensor.Traffic writes) where
  pure a := .pure a
  bind hp hf := .bind hp hf
  report hn := .log (.report hn)
  tryAll hf := .tryAll _ hf
  store v hr := by
    intro b e he
    rw [run_writeRegister, List.mem_singleton] at he
    rw [he]
    exact .store v _ hr
  fetch r n := by
    intro b e he
    rw [run_readBytes, List.mem_singleton] at he
    rw [he]
    exact .fetch r n _

/-- A command brings nothing into the journal but transactions with the sensor and debug notices,
and it writes only into the registers it is meant for. -/
theorem entries_perform (sensor : Sensor) (command : SensorCommand) :
    (command.perform sensor : Action β Error Answer).Entries (sensor.Traffic command.Writes) :=
  (sensor.closed_entries command.Writes).perform fun _ _ => .fail _

/-- A word is fetched in one transaction, and nothing is said of it. -/
theorem entries_readWord (sensor : Sensor) (r : UInt8) :
    (sensor.readWord r : Action β Error Int16).Entries fun e => ∃ t, e = .transaction t := by
  refine .bind (fun b e he => ?_) fun _ => .pure _
  rw [run_readBytes, List.mem_singleton] at he
  exact ⟨_, he⟩

theorem entries_readAxes (sensor : Sensor) (block : Axis → Half → Register) :
    (sensor.readAxes block : Action β Error Sample).Entries fun e => ∃ t, e = .transaction t :=
  .bind (sensor.entries_readWord _) fun _ => .bind (sensor.entries_readWord _) fun _ =>
    .bind (sensor.entries_readWord _) fun _ => .pure _

/-! ## Failures -/

theorem closed_reports (sensor : Sensor) :
    sensor.Closed (fun _ => True) fun {_} (p : Action β Error _) => p.Reports where
  pure a := .pure a
  bind hp hf := .bind hp hf
  report _ := .log _
  tryAll hf := .tryAll _ hf
  store v _ := by
    intro b
    rw [run_writeRegister]
    cases h : (Bus.transact sensor.address [.write [_, v]] b).1.fault with
    | none => exact ⟨(), rfl⟩
    | some fault => rfl
  fetch r n := by
    intro b
    rw [run_readBytes]
    cases h : (Bus.transact sensor.address [.write [r], .read n] b).1.fault with
    | none => exact ⟨_, rfl⟩
    | some fault => rfl

/-- No command but the one that asks for a genuine part has a failure of its own. -/
theorem reports_perform (sensor : Sensor) {command : SensorCommand} (h : command ≠ .probe) :
    (command.perform sensor : Action β Error Answer).Reports :=
  (sensor.closed_reports.mono fun _ _ => True.intro).perform fun hprobe => absurd hprobe h

theorem reports_apply (sensor : Sensor) (settings : List (Setting ρ)) :
    (sensor.apply settings : Action β Error Unit).Reports :=
  sensor.closed_reports.apply settings fun _ _ => True.intro

/-- What a sensor does in sequence stops at the first failure. Storing an offset is not of this
kind. -/
theorem sequential_stops (sensor : Sensor) (writes : UInt8 → Prop) :
    sensor.Sequential writes fun {_} (p : Action β Error _) => p.Stops where
  pure a := .pure a
  bind hp hf := .bind hp hf
  report _ := .log _
  store v _ := by
    intro b
    rw [run_writeRegister]
    refine ⟨List.pairwise_singleton _ _, fun u hu t ht => ?_⟩
    rw [List.mem_singleton.mp ht]
    dsimp only at hu ⊢
    split at hu
    · assumption
    · cases hu
  fetch r n := by
    intro b
    rw [run_readBytes]
    refine ⟨List.pairwise_singleton _ _, fun u hu t ht => ?_⟩
    rw [List.mem_singleton.mp ht]
    dsimp only at hu ⊢
    split at hu
    · assumption
    · cases hu

/-! ## The transactions in order -/

/-- The parts of a transaction by which a value is put into a register. -/
def storing (p : UInt8 × UInt8) : List Part := [.write [p.1, p.2]]

/-- Storing an offset makes all its transactions, whichever of them fail. -/
theorem parts_writeOffset (sensor : Sensor) (offset : Sample) (b : β) :
    ((sensor.writeOffset offset).run b).journal.transactions.map Transaction.parts =
      (offsetBytes offset).map storing := by
  unfold writeOffset
  -- On the bytes still to be stored, wherever the earlier ones have left the bus.
  induction offsetBytes offset generalizing b with
  | nil => rfl
  | cons p l ih =>
    rw [Action.run_tryAll_cons, Journal.transactions_append, List.map_append, ih, run_writeRegister]
    rfl

/-- The parts of the transaction by which a setting is carried out. -/
def settingParts (s : Setting ρ) : List Part :=
  match s.access with
  | .write => [.write [NamedRegister.address s.register, s.value]]
  | .read => [.write [NamedRegister.address s.register], .read 1]

end Sensor

end Magnetometer
