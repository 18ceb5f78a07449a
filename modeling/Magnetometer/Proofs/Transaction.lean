import Magnetometer.Proofs.Steady
import Magnetometer.Proofs.WriteLog

/-!
# Transactions taken apart

A simulated bus carries out a transaction part by part, and what one part leaves behind the next one
goes on from. So a transaction may be cut anywhere: it comes to the same as its first half and then,
if that went through, its second half (`carryOutAll_append`). What decides whether a part is carried
out is not changed by any part, which is why the second half is received like a transaction of its
own.

A transaction that is refused may have been carried out in part. `Refusal` lists the ways in which
that comes about, with all that is left of the transaction. The transactions that a sensor makes are
too short for it: a store has one part, and of a fetch the first part is never refused.

Main statement: `transactions_compose`.
-/

namespace Magnetometer

namespace SimulatedBus

/-! ## One transaction after another -/

/-- Whether a further part is carried out does not depend on the parts before it. -/
theorem receives_carryOutAll (parts : List Part) (b : SimulatedBus) :
    (carryOutAll parts b).2.failing = b.failing ∧
      (carryOutAll parts b).2.accepts = b.accepts := by
  rw [carryOutAll_eq]
  induction parts.takeWhile b.accepts generalizing b with
  | nil => exact ⟨rfl, rfl⟩
  | cons part parts ih =>
    obtain ⟨hfailing, haccepts⟩ := ih (b.after part)
    exact ⟨hfailing.trans (b.settings_after part).1, haccepts.trans (b.accepts_after part)⟩

/-- The reply to two lists of parts, of which the second one is sent if the first one went through,
and the device afterwards. -/
def inTurn (send : List Part → SimulatedBus → Reply × SimulatedBus) (first second : List Part)
    (b : SimulatedBus) : Reply × SimulatedBus :=
  let one := send first b
  match one.1.fault with
  | some _ => one
  | none =>
    let two := send second one.2
    (⟨one.1.received ++ two.1.received, two.1.fault⟩, two.2)

theorem inTurn_of_fault {send : List Part → SimulatedBus → Reply × SimulatedBus}
    {first : List Part} {b : SimulatedBus} {fault : Fault}
    (h : (send first b).1.fault = some fault) (second : List Part) :
    inTurn send first second b = send first b := by
  simp only [inTurn, h]

theorem inTurn_of_ok {send : List Part → SimulatedBus → Reply × SimulatedBus}
    {first : List Part} {b : SimulatedBus} (h : (send first b).1.fault = none)
    (second : List Part) :
    inTurn send first second b =
      (⟨(send first b).1.received ++ (send second (send first b).2).1.received,
        (send second (send first b).2).1.fault⟩, (send second (send first b).2).2) := by
  simp only [inTurn, h]

theorem carryOutAll_cons_error {part : Part} {b : SimulatedBus} {fault : Fault}
    (h : b.carryOut part = .error fault) (rest : List Part) :
    carryOutAll (part :: rest) b = (⟨[], some fault⟩, b) := by
  rw [carryOutAll, h]

theorem carryOutAll_cons_ok {part : Part} {b state : SimulatedBus} {received : List (List UInt8)}
    (h : b.carryOut part = .ok (received, state)) (rest : List Part) :
    carryOutAll (part :: rest) b =
      (⟨received ++ (carryOutAll rest state).1.received, (carryOutAll rest state).1.fault⟩,
        (carryOutAll rest state).2) := by
  rw [carryOutAll, h]

theorem carryOutAll_append (first second : List Part) :
    ∀ b : SimulatedBus, carryOutAll (first ++ second) b = inTurn carryOutAll first second b := by
  induction first with
  | nil => exact fun _ => rfl
  | cons part first ih =>
    intro b
    rw [List.cons_append]
    cases hpart : b.carryOut part with
    | error fault =>
      have hstop := carryOutAll_cons_error hpart
      have hfault : (carryOutAll (part :: first) b).1.fault = some fault := by rw [hstop]
      rw [inTurn_of_fault hfault, hstop, hstop]
    | ok done =>
      obtain ⟨received, state⟩ := done
      have hgo := carryOutAll_cons_ok hpart
      rw [hgo, ih state]
      cases hfirst : (carryOutAll first state).1.fault with
      | some fault =>
        have hfault : (carryOutAll (part :: first) b).1.fault = some fault := by rw [hgo, hfirst]
        rw [inTurn_of_fault hfirst, inTurn_of_fault hfault, hgo]
      | none =>
        rw [inTurn_of_ok hfirst, inTurn_of_ok (by rw [hgo, hfirst]), hgo]
        simp only [List.append_assoc]

theorem transact_outage {b : SimulatedBus} (h : b.failing = true) (address : UInt8)
    (parts : List Part) : Bus.transact address parts b = (⟨[], some .other⟩, b) :=
  if_pos h

theorem transact_foreign {b : SimulatedBus} (h : b.failing = false) {address : UInt8}
    (haddress : address ≠ factoryAddress) (parts : List Part) :
    Bus.transact address parts b = (⟨[], some (.noAcknowledge .address)⟩, b) :=
  (if_neg (Bool.eq_false_iff.mp h)).trans (if_pos haddress)

theorem transact_received {b : SimulatedBus} (h : b.failing = false) (parts : List Part) :
    Bus.transact factoryAddress parts b = carryOutAll parts b :=
  (if_neg (Bool.eq_false_iff.mp h)).trans (if_neg (not_not.mpr rfl))

theorem received_of_no_fault {b : SimulatedBus} {address : UInt8} {parts : List Part}
    (h : (Bus.transact address parts b).1.fault = none) :
    b.failing = false ∧ address = factoryAddress := by
  cases hfailing : b.failing with
  | true =>
    rw [transact_outage hfailing] at h
    cases h
  | false =>
    refine ⟨rfl, by_contra fun haddress => ?_⟩
    rw [transact_foreign hfailing haddress] at h
    cases h

theorem transact_append (address : UInt8) (first second : List Part) (b : SimulatedBus) :
    Bus.transact address (first ++ second) b = inTurn (Bus.transact address) first second b := by
  unfold inTurn
  cases h : b.failing with
  | true => simp only [transact_outage h]
  | false =>
    by_cases haddress : address = factoryAddress
    · subst haddress
      have hfirst : (carryOutAll first b).2.failing = false :=
        (receives_carryOutAll first b).1.trans h
      simp only [transact_received h, transact_received hfirst]
      exact carryOutAll_append first second b
    · simp only [transact_foreign h haddress]

/-! ## Refusals -/

/-- The ways in which a transaction is refused, each with the reply and with what has become of the
device by then. -/
inductive Refusal (b : SimulatedBus) (address : UInt8) : List Part → Reply × SimulatedBus → Prop
  | outage (parts : List Part) : b.failing = true → Refusal b address parts (⟨[], some .other⟩, b)
  | foreign (parts : List Part) : b.failing = false → address ≠ factoryAddress →
    Refusal b address parts (⟨[], some (.noAcknowledge .address)⟩, b)
  /-- Data are sent to the refused register. What came before stays done, and what was received is
  kept. -/
  | write {before : List Part} {received : List (List UInt8)} {state : SimulatedBus}
    {register : UInt8} {data : List UInt8} (later : List Part) :
    Bus.transact address before b = (⟨received, none⟩, state) →
    data ≠ [] → b.refused = some register →
    Refusal b address (before ++ .write (register :: data) :: later)
      (⟨received, some .other⟩, state)

theorem not_accepts_iff (b : SimulatedBus) (part : Part) :
    b.accepts part = false ↔
      ∃ register data, part = .write (register :: data) ∧ data ≠ [] ∧
        b.refused = some register := by
  match part with
  | .write [] => exact ⟨nofun, nofun⟩
  | .read _ => exact ⟨nofun, nofun⟩
  | .write (register :: data) =>
    unfold accepts
    rw [decide_eq_false_iff_not, not_or, not_not]
    constructor
    · exact fun h => ⟨register, data, rfl, h⟩
    · rintro ⟨_, _, heq, h⟩
      cases heq
      exact h

/-- A part that is not accepted is the end of a transaction, and leaves of it what came before. -/
theorem carryOutAll_stops {b : SimulatedBus} {before : List Part} {part : Part}
    (hbefore : (carryOutAll before b).1.fault = none) (hpart : b.accepts part = false)
    (later : List Part) :
    carryOutAll (before ++ part :: later) b =
      (⟨(carryOutAll before b).1.received, some .other⟩, (carryOutAll before b).2) := by
  have hstop : (carryOutAll before b).2.carryOut part = .error .other := by
    refine carryOut_of_not_accepts ?_
    rw [(receives_carryOutAll before b).2]
    exact hpart
  rw [carryOutAll_append, inTurn_of_ok hbefore, carryOutAll_cons_error hstop, List.append_nil]

/-- A transaction that is not carried out to its end has come to a part that is not accepted. -/
theorem exists_stop {parts : List Part} :
    ∀ {b : SimulatedBus}, (carryOutAll parts b).1.fault ≠ none →
      ∃ before part later, parts = before ++ part :: later ∧
        (carryOutAll before b).1.fault = none ∧ b.accepts part = false := by
  induction parts with
  | nil => exact fun h => absurd rfl h
  | cons part parts ih =>
    intro b h
    cases hpart : b.accepts part with
    | false => exact ⟨[], part, parts, rfl, rfl, hpart⟩
    | true =>
      obtain ⟨received, hdone⟩ := carryOut_of_accepts hpart
      have hgo := carryOutAll_cons_ok hdone
      rw [hgo] at h
      obtain ⟨before, stop, later, rfl, hbefore, hstop⟩ := ih h
      rw [accepts_after] at hstop
      exact ⟨part :: before, stop, later, rfl, by rw [hgo, hbefore], hstop⟩

theorem refusal_iff (b : SimulatedBus) (address : UInt8) (parts : List Part)
    (out : Reply × SimulatedBus) :
    b.Refusal address parts out ↔
      Bus.transact address parts b = out ∧ out.1.fault ≠ none := by
  constructor
  · intro hrefusal
    cases hrefusal with
    | outage _ h => exact ⟨transact_outage h address parts, nofun⟩
    | foreign _ h haddress => exact ⟨transact_foreign h haddress parts, nofun⟩
    | write later hbefore hdata hrefused =>
      refine ⟨?_, nofun⟩
      have hpart := (b.not_accepts_iff _).mpr ⟨_, _, rfl, hdata, hrefused⟩
      have hfault := congrArg (fun out => out.1.fault) hbefore
      obtain ⟨h, rfl⟩ := received_of_no_fault hfault
      rw [transact_received h] at hbefore hfault ⊢
      rw [carryOutAll_stops hfault hpart, hbefore]
  · rintro ⟨rfl, hfault⟩
    cases h : b.failing with
    | true =>
      rw [transact_outage h]
      exact .outage parts h
    | false =>
      by_cases haddress : address = factoryAddress
      · subst haddress
        rw [transact_received h] at hfault ⊢
        obtain ⟨before, part, later, rfl, hbefore, hpart⟩ := exists_stop hfault
        obtain ⟨register, data, rfl, hdata, hrefused⟩ := (b.not_accepts_iff part).mp hpart
        rw [carryOutAll_stops hbefore hpart]
        refine .write later ?_ hdata hrefused
        rw [transact_received h, ← hbefore]
      · rw [transact_foreign h haddress]
        exact .foreign parts h haddress

/-! ## The transactions of a sensor -/

/-- The device when a byte has been stored in a register. -/
def stored (r v : UInt8) (b : SimulatedBus) : SimulatedBus :=
  { b with
    registers := b.registers.set r.toNat v
    pointer := r.toNat + 1
    writes := b.writes ++ [(r, v)] }

/-- The device when bytes have been fetched from a register on. -/
def fetched (r : UInt8) (n : Nat) (b : SimulatedBus) : SimulatedBus :=
  { b with
    pointer := r.toNat + n
    reads := b.reads + 1
    dataReady := b.dataReady && !decide (r.toNat ≤ 1 ∧ 1 < r.toNat + n) }

/-- An operation has given an answer and done to the device what it was meant to do, or it has
failed on the bus and left the device as it was. -/
def AllOrNothing {α : Type} (b : SimulatedBus) (out : Outcome SimulatedBus Error α) (answer : α)
    (done : SimulatedBus) : Prop :=
  (out.result = .ok answer ∧ out.state = done) ∨
    ((∃ fault, out.result = .error (.bus fault)) ∧ out.state = b)

theorem allOrNothing_writeRegister (sensor : Sensor) (r v : UInt8) (b : SimulatedBus) :
    b.AllOrNothing ((sensor.writeRegister r v).run b) () (b.stored r v) := by
  rw [Sensor.run_writeRegister]
  rcases b.transact_store_cases sensor.address r v with ⟨fault, hrefused⟩ | hstored
  · rw [hrefused]
    exact .inr ⟨⟨fault, rfl⟩, rfl⟩
  · rw [hstored]
    refine .inl ⟨rfl, ?_⟩
    rw [store, UInt8.ofNat_toNat]
    rfl

theorem allOrNothing_readBytes (sensor : Sensor) (r : UInt8) (n : Nat) (b : SimulatedBus) :
    b.AllOrNothing ((sensor.readBytes r n).run b) (b.registers.burst r.toNat n)
      (b.fetched r n) := by
  rw [Sensor.run_readBytes]
  rcases b.transact_fetch_cases sensor.address r n with ⟨fault, hrefused⟩ | hfetched
  · rw [hrefused]
    exact .inr ⟨⟨fault, rfl⟩, rfl⟩
  · rw [hfetched]
    exact .inl ⟨congrArg Except.ok (List.append_nil _), rfl⟩

/-- A transaction may be cut anywhere: its reply and what becomes of the device are those of its
first half and, if that goes through, of its second half as a transaction of its own. It is refused
in the ways that `Refusal` lists and in no other. By an outage or a foreign address it has no effect
at all, and by a write to the refused register it has just that of the parts before the write. A
store or a fetch by a sensor is carried out as a whole or leaves the device as it was. -/
theorem transactions_compose (b : SimulatedBus) (address : UInt8) :
    (∀ first second, Bus.transact address (first ++ second) b =
      inTurn (Bus.transact address) first second b) ∧
    (∀ parts out, b.Refusal address parts out ↔
      Bus.transact address parts b = out ∧ out.1.fault ≠ none) ∧
    (∀ r v, b.AllOrNothing ((Sensor.writeRegister ⟨address⟩ r v).run b) () (b.stored r v)) ∧
    ∀ r n, b.AllOrNothing ((Sensor.readBytes ⟨address⟩ r n).run b)
      (b.registers.burst r.toNat n) (b.fetched r n) := by
  refine ⟨fun first second => transact_append address first second b, b.refusal_iff address,
    fun r v => ?_, fun r n => ?_⟩
  · exact allOrNothing_writeRegister ⟨address⟩ r v b
  · exact allOrNothing_readBytes ⟨address⟩ r n b

end SimulatedBus

end Magnetometer
