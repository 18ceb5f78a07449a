import Magnetometer.Proofs.Device

/-!
# Devices that failures leave alone

A `RegisterDevice` may do anything when a transaction fails. A `SteadyDevice` does nothing: its
registers stay as they are, and so does the announcement of a reading, by which it holds the
data-ready line. A reading is announced until its first byte is fetched, or longer if the
announcement is sticky.

The journal of an operation then tells the whole story, whichever transactions fail: what becomes
of the registers (`relies_of_steady`), and what becomes of the announcement (`closed_announces`).

Main statement: `Outcome.Announces.of_silent`, by which what fetches no reading leaves it announced.
-/

namespace Magnetometer

/-- A device with registers on which a transaction that fails has no effect, and which announces a
reading until its first byte is fetched. -/
class SteadyDevice (β : Type) extends RegisterDevice β where
  /-- Whether a reading is announced. This is the level of the line, also when it cannot be read. -/
  announced : β → Bool
  /-- Whether a reading stays announced when it is fetched. -/
  sticky : β → Bool
  announced_of_dataReady : ∀ {b : β} {level : Bool},
    Board.dataReady b = .ok level → announced b = level
  registers_refused_store : ∀ {address r v : UInt8} {b : β} {fault : Fault},
    (Bus.transact address [.write [r, v]] b).1.fault = some fault →
      registers (Bus.transact address [.write [r, v]] b).2 = registers b
  registers_refused_fetch : ∀ {address r : UInt8} {n : Nat} {b : β} {fault : Fault},
    (Bus.transact address [.write [r], .read n] b).1.fault = some fault →
      registers (Bus.transact address [.write [r], .read n] b).2 = registers b
  announced_store : ∀ {address r v : UInt8} {b : β},
    announced (Bus.transact address [.write [r, v]] b).2 = announced b
  announced_refused_fetch : ∀ {address r : UInt8} {n : Nat} {b : β} {fault : Fault},
    (Bus.transact address [.write [r], .read n] b).1.fault = some fault →
      announced (Bus.transact address [.write [r], .read n] b).2 = announced b
  announced_fetch : ∀ {address r : UInt8} {n : Nat} {b : β},
    (Bus.transact address [.write [r], .read n] b).1.fault = none →
      announced (Bus.transact address [.write [r], .read n] b).2 =
        (announced b && (sticky b || !decide (r.toNat ≤ 1 ∧ 1 < r.toNat + n)))
  sticky_store : ∀ {address r v : UInt8} {b : β},
    sticky (Bus.transact address [.write [r, v]] b).2 = sticky b
  sticky_fetch : ∀ {address r : UInt8} {n : Nat} {b : β},
    sticky (Bus.transact address [.write [r], .read n] b).2 = sticky b

/-! ## The devices at hand -/

namespace Bench

instance : SteadyDevice Bench where
  announced := Bench.dataReady
  sticky := Bench.sticky
  announced_of_dataReady {b level} h := by
    have hready : Board.dataReady b =
        if b.pinFails then Except.error PinFault.other else Except.ok b.dataReady := rfl
    rw [hready] at h
    split at h
    · cases h
    · exact Except.ok.inj h
  registers_refused_store {address r v b fault} h := by
    obtain ⟨_, ⟨_, hrun⟩ | hrun⟩ := b.transact_store_cases address r v
    · rw [hrun]
      rfl
    · rw [hrun] at h
      cases h
  registers_refused_fetch {address r n b fault} h := by
    obtain ⟨_, ⟨_, hrun⟩ | hrun⟩ := b.transact_fetch_cases address r n
    · rw [hrun]
      rfl
    · rw [hrun] at h
      cases h
  announced_store {address r v b} := by
    obtain ⟨_, ⟨_, hrun⟩ | hrun⟩ := b.transact_store_cases address r v <;> rw [hrun]
  announced_refused_fetch {address r n b fault} h := by
    obtain ⟨_, ⟨_, hrun⟩ | hrun⟩ := b.transact_fetch_cases address r n
    · rw [hrun]
    · rw [hrun] at h
      cases h
  announced_fetch {address r n b} h := by
    obtain ⟨_, ⟨_, hrun⟩ | hrun⟩ := b.transact_fetch_cases address r n
    · rw [hrun] at h
      cases h
    · rw [hrun]
  sticky_store {address r v b} := by
    obtain ⟨_, ⟨_, hrun⟩ | hrun⟩ := b.transact_store_cases address r v <;> rw [hrun]
  sticky_fetch {address r n b} := by
    obtain ⟨_, ⟨_, hrun⟩ | hrun⟩ := b.transact_fetch_cases address r n <;> rw [hrun]

end Bench

namespace SimulatedBus

instance : SteadyDevice SimulatedBus where
  announced := SimulatedBus.dataReady
  sticky _ := false
  announced_of_dataReady h := Except.ok.inj h
  registers_refused_store {address r v b fault} h := by
    rcases b.transact_store_cases address r v with ⟨_, hrun⟩ | hrun
    · rw [hrun]
    · rw [hrun] at h
      cases h
  registers_refused_fetch {address r n b fault} h := by
    rcases b.transact_fetch_cases address r n with ⟨_, hrun⟩ | hrun
    · rw [hrun]
    · rw [hrun] at h
      cases h
  announced_store {address r v b} := by
    rcases b.transact_store_cases address r v with ⟨_, hrun⟩ | hrun <;> rw [hrun]
    rfl
  announced_refused_fetch {address r n b fault} h := by
    rcases b.transact_fetch_cases address r n with ⟨_, hrun⟩ | hrun
    · rw [hrun]
    · rw [hrun] at h
      cases h
  announced_fetch {address r n b} h := by
    rcases b.transact_fetch_cases address r n with ⟨_, hrun⟩ | hrun
    · rw [hrun] at h
      cases h
    · rw [hrun]
      rfl
  sticky_store := rfl
  sticky_fetch := rfl

end SimulatedBus

/-! ## Announcements and journals -/

/-- Whether the transaction fetches the first byte of a reading. -/
def Transaction.takes (t : Transaction) : Bool :=
  match t.fault, t.parts with
  | none, [.write [r], .read n] => r.toNat ≤ 1 ∧ 1 < r.toNat + n
  | _, _ => false

/-- Whether the first byte of a reading was fetched. -/
def Journal.takes (j : Journal) : Bool := j.transactions.any Transaction.takes

theorem Journal.takes_singleton (t : Transaction) : Journal.takes [.transaction t] = t.takes :=
  Bool.or_false _

theorem Journal.takes_append (j k : Journal) : (j ++ k).takes = (j.takes || k.takes) := by
  rw [takes, transactions_append, List.any_append]
  rfl

section

variable {β : Type} [SteadyDevice β] {ε α γ : Type} {b : β}

open RegisterDevice (registers)
open SteadyDevice (announced sticky)

/-- On a steady device every transaction has on the registers the effect that it is seen to have,
whether it fails or not. -/
theorem relies_of_steady : Relies β fun _ => True where
  store address r v b := by
    intro t _
    cases hfault : (Bus.transact address [.write [r, v]] b).1.fault with
    | none =>
      rw [RegisterDevice.registers_store hfault, Transaction.applyTo]
      simp only [t, hfault]
    | some fault =>
      rw [SteadyDevice.registers_refused_store hfault, Transaction.applyTo]
      simp only [t, hfault]
  fetch address r n b := by
    intro t _
    cases hfault : (Bus.transact address [.write [r], .read n] b).1.fault with
    | none => exact RegisterDevice.registers_fetch hfault
    | some fault => exact SteadyDevice.registers_refused_fetch hfault

/-- The journal tells what becomes of the announcement. -/
structure Outcome.Announces (b : β) (out : Outcome β ε α) : Prop where
  sticky_eq : sticky out.state = sticky b
  announced_eq : announced out.state = (announced b && (sticky b || !out.journal.takes))

/-- As long as no reading is fetched, it stays announced. -/
theorem Outcome.Announces.of_silent {out : Outcome β ε α} (h : out.Announces b)
    (hsilent : out.journal.takes = false) : announced out.state = announced b := by
  rw [h.announced_eq, hsilent, Bool.not_false, Bool.or_true, Bool.and_true]

theorem Outcome.Announces.of_unchanged {out : Outcome β ε α} (hsticky : sticky out.state = sticky b)
    (hannounced : announced out.state = announced b) (hsilent : out.journal.takes = false) :
    out.Announces b where
  sticky_eq := hsticky
  announced_eq := by rw [hannounced, hsilent, Bool.not_false, Bool.or_true, Bool.and_true]

/-- Once taken, a reading that is not sticky is gone for good. -/
theorem Outcome.Announces.append {δ η : Type} {first : Outcome β ε α} {second : Outcome β δ γ}
    (h : first.Announces b) (h' : second.Announces first.state) (result : Except ε η) :
    (⟨result, second.state, first.journal ++ second.journal⟩ : Outcome β ε η).Announces b where
  sticky_eq := h'.sticky_eq.trans h.sticky_eq
  announced_eq := by
    rw [h'.announced_eq, h.sticky_eq, h.announced_eq, Journal.takes_append, Bool.not_or,
      Bool.or_and_distrib_left, Bool.and_assoc]

def Action.Announces (p : Action β ε α) : Prop := ∀ b, (p.run b).Announces b

/-- What leaves the device alone and sends nothing. -/
theorem Action.Announces.of_rest {p : Action β ε α} (hstate : ∀ b, (p.run b).state = b)
    (hsilent : ∀ b, (p.run b).journal.takes = false) : p.Announces :=
  fun b => .of_unchanged (congrArg sticky (hstate b)) (congrArg announced (hstate b)) (hsilent b)

theorem Action.Announces.bind {p : Action β ε α} {f : α → Action β ε γ} (hp : p.Announces)
    (hf : ∀ a, (f a).Announces) : (p >>= f).Announces := by
  intro b
  cases hres : (p.run b).result with
  | error e =>
    rw [run_bind_error hres]
    exact ⟨(hp b).sticky_eq, (hp b).announced_eq⟩
  | ok a =>
    rw [run_bind_ok hres]
    exact (hp b).append (hf a _) _

theorem Action.Announces.tryAll {f : α → Action β ε Unit} :
    ∀ {l : List α}, (∀ a ∈ l, (f a).Announces) → (tryAll f l).Announces := by
  intro l
  induction l with
  | nil =>
    intro _
    exact .of_rest (fun _ => rfl) fun _ => rfl
  | cons a l ih =>
    intro hf b
    rw [run_tryAll_cons]
    exact (hf a List.mem_cons_self b).append (ih (fun c hc => hf c (List.mem_cons_of_mem _ hc)) _) _

/-- What is stored is no reading. -/
theorem Sensor.takes_attempted_storing (sensor : Sensor) (fault : Option Fault)
    (p : UInt8 × UInt8) : (sensor.attempted fault (storing p)).takes = false := by
  cases fault <;> rfl

theorem Sensor.closed_announces (sensor : Sensor) (writes : UInt8 → Prop) :
    sensor.Closed writes fun {_} (p : Action β Error _) => p.Announces where
  pure _ := .of_rest (fun _ => rfl) fun _ => rfl
  bind hp hf := .bind hp hf
  report _ := .of_rest (fun _ => rfl) fun _ => rfl
  tryAll hf := .tryAll hf
  store {r} v _ := by
    intro b
    rw [run_writeRegister]
    refine .of_unchanged SteadyDevice.sticky_store SteadyDevice.announced_store ?_
    exact (Journal.takes_singleton _).trans (sensor.takes_attempted_storing _ (r, v))
  fetch r n := by
    intro b
    rw [run_readBytes]
    cases hfault : (Bus.transact sensor.address [.write [r], .read n] b).1.fault with
    | none =>
      refine ⟨SteadyDevice.sticky_fetch, (SteadyDevice.announced_fetch hfault).trans ?_⟩
      rw [Journal.takes_singleton]
      rfl
    | some fault =>
      refine .of_unchanged SteadyDevice.sticky_fetch
        (SteadyDevice.announced_refused_fetch hfault) ?_
      exact Journal.takes_singleton _

theorem Sensor.announces_readSample (sensor : Sensor) :
    (sensor.readSample : Action β Error Sample).Announces :=
  (sensor.closed_announces fun _ => False).readAxes .output

end

end Magnetometer
