import Magnetometer.Proofs.Table

/-!
# Two ways to zero

The offset in the device can be made zero in two ways: by a table of settings, which stops at the
first failure, or by storing the offset zero, which goes on. Both send the same bytes in the same
order, so up to the first failure there is no difference between them, and without a failure there
is none at all (`goesOn_apply`, for any table that only writes). What comes after a failure is sent
in the second way alone, and it changes nothing about what is reported.

Main statement: `zeroing_agrees_up_to_failure`.
-/

namespace Magnetometer

/-- The whole goes on where the part has stopped, if it has: what the part has sent comes first in
what the whole has sent, and both report the same. -/
structure Outcome.GoesOn {σ ε : Type} (whole part : Outcome σ ε Unit) : Prop where
  result : whole.result = part.result
  transactions : part.journal.transactions <+: whole.journal.transactions
  state_of_ok : part.result = .ok () → whole.state = part.state
  transactions_of_ok : part.result = .ok () →
    whole.journal.transactions = part.journal.transactions

namespace Sensor

variable {β ρ : Type} [Bus β] [NamedRegister ρ]

/-- Bytes of which every one is tried, and a table of settings that writes the same bytes. -/
theorem goesOn_apply (sensor : Sensor) (writes : List (ρ × UInt8)) (b : β) :
    ((Action.tryAll (fun p : UInt8 × UInt8 => sensor.writeRegister p.1 p.2)
        (writes.map fun p => (NamedRegister.address p.1, p.2))).run b).GoesOn
      ((sensor.apply (writes.map fun p => (⟨.write, p.1, p.2⟩ : Setting ρ))).run b) := by
  -- On the bytes still to be written, wherever the earlier ones have left the bus.
  induction writes generalizing b with
  | nil => exact ⟨rfl, List.prefix_refl _, fun _ => rfl, fun _ => rfl⟩
  | cons p writes ih =>
    have hfirst := sensor.run_applyOne_write p.1 p.2 b
    rw [run_writeRegister] at hfirst
    rw [List.map_cons, List.map_cons, apply_cons, Action.run_tryAll_cons, run_writeRegister]
    cases hfault : (Bus.transact sensor.address [.write [NamedRegister.address p.1, p.2]] b).1.fault
      with
    | some fault =>
      -- The table stops here.
      rw [hfault] at hfirst
      rw [Action.run_bind_error (by rw [hfirst]), hfirst]
      exact ⟨rfl, List.prefix_append _ _, nofun, nofun⟩
    | none =>
      rw [hfault] at hfirst
      rw [Action.run_bind_ok (by rw [hfirst]), hfirst]
      obtain ⟨hresult, hprefix, hstate, hsame⟩ :=
        ih (Bus.transact sensor.address [.write [NamedRegister.address p.1, p.2]] b).2
      refine ⟨hresult, ?_, hstate, fun hok => ?_⟩
      · exact (List.prefix_cons_inj _).mpr hprefix
      · exact congrArg (_ :: ·) (hsame hok)

/-- The table that clears the offset writes the bytes of the offset zero. -/
theorem goesOn_clearOffset (sensor : Sensor) (b : β) :
    ((sensor.writeOffset .zero).run b).GoesOn ((sensor.apply Setting.clearOffset).run b) := by
  let writes : List (Register × UInt8) := Register.offsetPairs.flatMap fun p => [(p.1, 0), (p.2, 0)]
  have hbytes : offsetBytes .zero = writes.map fun p => (NamedRegister.address p.1, p.2) := rfl
  have htable : Setting.clearOffset = writes.map fun p => ⟨.write, p.1, p.2⟩ := rfl
  rw [writeOffset, hbytes, htable]
  exact sensor.goesOn_apply writes b

end Sensor

/-- On any bus in any state, the table that clears the stored offset and the storing of the offset
zero do the same as long as nothing fails: they make the same transactions, succeed, and leave the
bus in the same state. If something fails, both report the same failure; and what the table has sent
is what was sent for the offset up to and including the first transaction that failed. -/
theorem zeroing_agrees_up_to_failure {β : Type} [Bus β] (sensor : Sensor) (b : β) :
    let cleared := (sensor.apply Setting.clearOffset).run b
    let stored := (sensor.writeOffset .zero).run b
    match cleared.journal.firstFault with
    | none =>
      cleared.result = .ok () ∧ stored.result = .ok () ∧ stored.state = cleared.state ∧
        stored.journal.transactions = cleared.journal.transactions
    | some fault =>
      cleared.result = .error (.bus fault) ∧ stored.result = .error (.bus fault) ∧
        ∃ before failed after, stored.journal.transactions = before ++ failed :: after ∧
          (∀ t ∈ before, t.fault = none) ∧ failed.fault = some fault ∧
          cleared.journal.transactions = before ++ [failed] := by
  intro cleared stored
  obtain ⟨hresult, ⟨after, hafter⟩, hstate, hsame⟩ := sensor.goesOn_clearOffset b
  have hreports := sensor.reports_apply (β := β) Setting.clearOffset b
  cases hfirst : cleared.journal.firstFault with
  | none =>
    rw [hfirst] at hreports
    obtain ⟨_, hok⟩ := hreports
    exact ⟨hok, hresult.trans hok, hstate hok, hsame hok⟩
  | some fault =>
    rw [hfirst] at hreports
    refine ⟨hreports, hresult.trans hreports, ?_⟩
    obtain ⟨done, rest, -, hmade⟩ := (sensor.follows_apply Setting.clearOffset b).split
    cases rest with
    | nil => cases hreports.symm.trans hmade.1
    | cons failed rest =>
      obtain ⟨fault', hfailed, hmade⟩ := hmade
      obtain rfl : fault = fault' := Error.bus.inj (Except.error.inj (hreports.symm.trans hfailed))
      refine ⟨_, _, after, ?_, fun t ht => ?_, rfl, hmade⟩
      · rw [← hafter, hmade, List.append_assoc, List.singleton_append]
      · obtain ⟨s, -, rfl⟩ := List.mem_map.mp ht
        rfl

end Magnetometer
