import Magnetometer.Proofs.Steady

/-!
# Tables of settings

A table of settings is gone through from the top, with one transaction for each setting, to its end
or to the first transaction that fails. What has been gone through is a part of the table in front,
and all else follows from it: what was sent, how it is reported, and what the registers hold.

For the registers only the settings that write count (`Setting.stored?`), of two that write into
one register the later, and none that writes beyond the last register: `RegisterFile.get_storeAll`.
A table in two parts comes to one part after the other: `Sensor.apply_append`.

Main statement: `settings_applied_in_order`.
-/

namespace Magnetometer

open RegisterDevice (registers)

/-- A plan that treats the elements of a list in the same way goes through some of them, in order,
and fails at the next one if there is one. -/
theorem Outcome.Follows.split {σ ι : Type} {out : Outcome σ Error Unit} {sensor : Sensor}
    {g : ι → List Part} {l : List ι} (h : out.Follows sensor (l.map g)) :
    ∃ done rest, l = done ++ rest ∧
      match rest with
      | [] => out.result = .ok () ∧
        out.journal.transactions = done.map fun i => sensor.attempted none (g i)
      | failed :: _ => ∃ fault, out.result = .error (.bus fault) ∧
        out.journal.transactions =
          done.map (fun i => sensor.attempted none (g i)) ++
            [sensor.attempted (some fault) (g failed)] := by
  rcases h.of_map with ⟨_, hok, hmade⟩ | ⟨done, failed, rest, fault, hsplit, hfailed, hmade⟩
  · exact ⟨l, [], (List.append_nil l).symm, hok, hmade⟩
  · exact ⟨done, failed :: rest, hsplit, fault, hfailed, hmade⟩

/-! ## What is stored -/

section

variable {ρ : Type} [NamedRegister ρ]

namespace Setting

/-- What the setting stores, and where, if it writes. -/
def stored? (s : Setting ρ) : Option (UInt8 × UInt8) :=
  match s.access with
  | .write => some (NamedRegister.address s.register, s.value)
  | .read => none

/-- The setting with another value, if it is a read. -/
def revalued (value : UInt8) (s : Setting ρ) : Setting ρ :=
  match s.access with
  | .write => s
  | .read => { s with value := value }

end Setting

namespace RegisterFile

/-- Settings that went through have put their bytes into the registers. -/
theorem foldl_applyTo_settings (sensor : Sensor) (settings : List (Setting ρ)) (f : RegisterFile) :
    (settings.map fun s => sensor.attempted none (Sensor.settingParts s)).foldl
        (fun f t => t.applyTo f) f =
      f.storeAll (settings.filterMap Setting.stored?) := by
  rw [foldl_applyTo, List.filterMap_map]
  congr 2
  funext ⟨access, register, value⟩
  cases access <;> rfl

end RegisterFile

namespace Sensor

variable {β : Type}

/-! ## Tables taken apart -/

section

variable [Bus β]

/-- A write is reported before it is tried, so the report is there whether it fails or not. -/
theorem run_applyOne_write (sensor : Sensor) (register : ρ) (value : UInt8) (b : β) :
    (sensor.applyOne ⟨.write, register, value⟩).run b =
      ⟨((sensor.writeRegister (NamedRegister.address register) value).run b).result,
        ((sensor.writeRegister (NamedRegister.address register) value).run b).state,
        .notice (.registerWrite (NamedRegister.name register) (NamedRegister.address register)
            value) ::
          ((sensor.writeRegister (NamedRegister.address register) value).run b).journal⟩ :=
  Action.run_bind_ok rfl

/-- A byte that is read is reported afterwards, so nothing is reported if the read fails. -/
theorem run_readRegister_log (sensor : Sensor) (r : UInt8) (notice : UInt8 → Notice) (b : β) :
    (sensor.readRegister r >>= fun value => Action.log (notice value)).run b =
      let answered := Bus.transact sensor.address [.write [r], .read 1] b
      match answered.1.fault with
      | none => ⟨.ok (), answered.2,
          [.transaction (sensor.attempted none [.write [r], .read 1]),
            .notice (notice (answered.1.received.flatten.getD 0 0))]⟩
      | some fault => ⟨.error (.bus fault), answered.2,
          [.transaction (sensor.attempted (some fault) [.write [r], .read 1])]⟩ := by
  unfold readRegister
  rw [Action.run_bind, Action.run_bind, run_readBytes]
  dsimp only
  cases (Bus.transact sensor.address [.write [r], .read 1] b).1.fault <;> rfl

theorem apply_cons (sensor : Sensor) (s : Setting ρ) (settings : List (Setting ρ)) :
    (sensor.apply (s :: settings) : Action β Error Unit) =
      sensor.applyOne s >>= fun _ => sensor.apply settings :=
  rfl

theorem applyOne_revalued (sensor : Sensor) (value : UInt8) (s : Setting ρ) :
    (sensor.applyOne (s.revalued value) : Action β Error Unit) = sensor.applyOne s := by
  obtain ⟨access, register, _⟩ := s
  cases access <;> rfl

/-- The values of settings that read make no difference. -/
theorem apply_revalued (sensor : Sensor) (settings : List (Setting ρ)) (values : Nat → UInt8) :
    (sensor.apply (settings.mapIdx fun i s => s.revalued (values i)) : Action β Error Unit) =
      sensor.apply settings := by
  induction settings generalizing values with
  | nil => rfl
  | cons s settings ih =>
    rw [List.mapIdx_cons, apply_cons, apply_cons, applyOne_revalued, ih fun i => values (i + 1)]

theorem apply_append (sensor : Sensor) (settings more : List (Setting ρ)) :
    (sensor.apply (settings ++ more) : Action β Error Unit) =
      sensor.apply settings >>= fun _ => sensor.apply more :=
  List.forM_append

end

/-- Whatever fails, the journal tells what becomes of the registers. -/
theorem registers_apply [SteadyDevice β] (sensor : Sensor) (settings : List (Setting ρ)) (b : β) :
    registers ((sensor.apply settings).run b).state =
      ((sensor.apply settings).run b).journal.transactions.foldl (fun f t => t.applyTo f)
        (registers b) :=
  (sensor.closed_replays (β := β) (fun _ => True) relies_of_steady).apply settings
    (fun _ _ => True.intro) b fun _ _ => True.intro

end Sensor

end

/-- On a steady device a table of settings is gone through in order, with one transaction for each
setting: a register and a value are sent, or a register is sent and one byte is asked for. The first
transaction that fails is the last one made, and it is reported; if there is none, the table
succeeds. The registers hold what the settings before that one have written, the later of two for
one register, and nothing is kept beyond the last register. With what value a setting reads makes no
difference to anything. A table in two parts is gone through as its first part, and then, if that
succeeded, as its second part. -/
theorem settings_applied_in_order {β ρ : Type} [SteadyDevice β] [NamedRegister ρ] (sensor : Sensor)
    (settings : List (Setting ρ)) (b : β) :
    let out := (sensor.apply settings).run b
    let send (fault : Option Fault) (s : Setting ρ) : Transaction :=
      ⟨sensor.address,
        match s.access with
        | .write => [.write [NamedRegister.address s.register, s.value]]
        | .read => [.write [NamedRegister.address s.register], .read 1],
        fault⟩
    (∃ done rest, settings = done ++ rest ∧
      (match rest with
      | [] => out.result = .ok () ∧ out.journal.transactions = done.map (send none)
      | failed :: _ => ∃ fault, out.result = .error (.bus fault) ∧
        out.journal.transactions = done.map (send none) ++ [send (some fault) failed]) ∧
      registers out.state = (registers b).storeAll (done.filterMap Setting.stored?) ∧
      ∀ r : UInt8, (registers out.state).get r.toNat =
        if r.toNat < 18 then
          ((done.filterMap Setting.stored?).reverse.lookup r).getD ((registers b).get r.toNat)
        else 0) ∧
    (out.result = .ok () ↔ ∀ t ∈ out.journal.transactions, t.fault = none) ∧
    (∀ values : Nat → UInt8,
      (sensor.apply (settings.mapIdx fun i s => s.revalued (values i)) : Action β Error Unit) =
        sensor.apply settings) ∧
    ∀ more : List (Setting ρ),
      (sensor.apply (settings ++ more)).run b =
        match out.result with
        | .error e => ⟨.error e, out.state, out.journal⟩
        | .ok _ =>
          let second := (sensor.apply more).run out.state
          ⟨second.result, second.state, out.journal ++ second.journal⟩ := by
  intro out send
  have hreports : (sensor.apply settings : Action β Error Unit).Reports :=
    sensor.reports_apply settings
  have hsend : send = fun fault s => sensor.attempted fault (Sensor.settingParts s) := by
    funext fault ⟨access, register, value⟩
    cases access <;> rfl
  refine ⟨?_, ⟨fun h => hreports.clean h, fun h => ?_⟩, sensor.apply_revalued settings,
    fun more => ?_⟩
  · obtain ⟨done, rest, hsplit, hmade⟩ := (sensor.follows_apply settings b).split
    have hstored : registers out.state =
        (registers b).storeAll (done.filterMap Setting.stored?) := by
      rw [sensor.registers_apply settings b]
      cases rest with
      | nil => rw [hmade.2, RegisterFile.foldl_applyTo_settings]
      | cons failed rest =>
        obtain ⟨fault, -, hmade⟩ := hmade
        -- What failed has stored nothing.
        rw [hmade, List.foldl_append, RegisterFile.foldl_applyTo_settings]
        rfl
    rw [hsend]
    refine ⟨done, rest, hsplit, ?_, hstored, fun r => ?_⟩
    · cases rest <;> exact hmade
    · rw [hstored]
      exact RegisterFile.get_storeAll _ _ r
  · obtain ⟨_, hok⟩ := hreports.ok h
    exact hok
  · rw [sensor.apply_append]
    cases hresult : out.result with
    | error e => exact Action.run_bind_error hresult
    | ok _ => exact Action.run_bind_ok hresult

end Magnetometer
