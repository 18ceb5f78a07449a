import Mathlib.Data.List.Induction
import Magnetometer.Bench
import Magnetometer.SimulatedBus
import Magnetometer.Proofs.Plan

/-!
# Devices with registers

A `RegisterDevice` is a board of which it is known what its device holds: a store that goes through
puts the byte into its register, and a fetch that goes through answers with what the registers hold.
Nothing is said of transactions that fail. The two devices at hand refuse a transfer as a whole or
carry it out as a whole (`transact_store_cases`, `transact_fetch_cases`).

The journal of an operation then tells what becomes of the registers. `RegisterFile.replay` carries
out the stores of a journal, and by `closed_replays` that is what every operation of a sensor does,
provided that the device can be relied on for all the transactions made (`Relies`). What the journal
does not write to stays as it was: `get_replay`. Of what it writes into one register the last byte
counts: `get_storeAll`.

Main statements: `registers_writeOffset`, `registers_clearOffset` and `readAxes_of_clean`.
-/

namespace Magnetometer

/-- A board whose device keeps bytes in registers. -/
class RegisterDevice (β : Type) extends Board β where
  registers : β → RegisterFile
  registers_store : ∀ {address r v : UInt8} {b : β},
    (Bus.transact address [.write [r, v]] b).1.fault = none →
      registers (Bus.transact address [.write [r, v]] b).2 = (registers b).set r.toNat v
  registers_fetch : ∀ {address r : UInt8} {n : Nat} {b : β},
    (Bus.transact address [.write [r], .read n] b).1.fault = none →
      registers (Bus.transact address [.write [r], .read n] b).2 = registers b
  received_fetch : ∀ {address r : UInt8} {n : Nat} {b : β},
    (Bus.transact address [.write [r], .read n] b).1.fault = none →
      (Bus.transact address [.write [r], .read n] b).1.received.flatten =
        (registers b).burst r.toNat n

/-! ## The devices at hand -/

namespace Bench

/-- Asking for a permission moves the countdown on and does nothing else. -/
theorem permit_snd (address : UInt8) (t : Transfer) (b : Bench) :
    ∃ countdown, (b.permit address t).2 = { b with countdown := countdown } := by
  unfold permit
  split
  · exact ⟨b.countdown, rfl⟩
  · split
    · exact ⟨b.countdown, rfl⟩
    · split
      · exact ⟨b.countdown, rfl⟩
      · exact ⟨none, rfl⟩
      next n fault _ => exact ⟨some (n, fault), rfl⟩

/-- A transfer is refused as a whole or carried out as a whole. -/
theorem transact_cases {parts : List Part} {t : Transfer} (ht : Transfer.ofParts? parts = some t)
    (address : UInt8) (b : Bench) :
    ∃ countdown, let b' : Bench := { b with countdown := countdown }
      (∃ fault, Bus.transact address parts b = (⟨[], some fault⟩, b')) ∨
        Bus.transact address parts b = (⟨(b'.carryOut t).1, none⟩, (b'.carryOut t).2) := by
  obtain ⟨countdown, hpermit⟩ := b.permit_snd address t
  refine ⟨countdown, ?_⟩
  have hrun : Bus.transact address parts b = b.transact address parts := rfl
  rw [hrun, transact, ht]
  dsimp only
  rw [hpermit]
  cases (b.permit address t).1 with
  | some fault => exact .inl ⟨fault, rfl⟩
  | none => exact .inr rfl

theorem transact_store_cases (address r v : UInt8) (b : Bench) :
    ∃ countdown, let b' : Bench := { b with countdown := countdown }
      (∃ fault, Bus.transact address [.write [r, v]] b = (⟨[], some fault⟩, b')) ∨
        Bus.transact address [.write [r, v]] b =
          (⟨[], none⟩, { b' with registers := b.registers.set r.toNat v }) :=
  transact_cases (t := .store r v) rfl address b

theorem transact_fetch_cases (address r : UInt8) (n : Nat) (b : Bench) :
    ∃ countdown, let b' : Bench := { b with countdown := countdown }
      (∃ fault, Bus.transact address [.write [r], .read n] b = (⟨[], some fault⟩, b')) ∨
        Bus.transact address [.write [r], .read n] b =
          (⟨[b.registers.burst r.toNat n], none⟩,
            { b' with
              dataReady := b.dataReady &&
                (b.sticky || !decide (r.toNat ≤ 1 ∧ 1 < r.toNat + n)) }) :=
  transact_cases (t := .fetch r n) rfl address b

instance : RegisterDevice Bench where
  registers := Bench.registers
  registers_store {address r v b} h := by
    obtain ⟨_, ⟨_, hrun⟩ | hrun⟩ := b.transact_store_cases address r v
    · rw [hrun] at h
      cases h
    · rw [hrun]
  registers_fetch {address r n b} h := by
    obtain ⟨_, ⟨_, hrun⟩ | hrun⟩ := b.transact_fetch_cases address r n <;> rw [hrun]
  received_fetch {address r n b} h := by
    obtain ⟨_, ⟨_, hrun⟩ | hrun⟩ := b.transact_fetch_cases address r n
    · rw [hrun] at h
      cases h
    · rw [hrun]
      exact List.append_nil _

end Bench

namespace SimulatedBus

/-- A store is refused as a whole, or it sets the pointer and stores its byte. -/
theorem transact_store_cases (address r v : UInt8) (b : SimulatedBus) :
    (∃ fault, Bus.transact address [.write [r, v]] b = (⟨[], some fault⟩, b)) ∨
      Bus.transact address [.write [r, v]] b =
        (⟨[], none⟩, store { b with pointer := r.toNat } v) := by
  have hrun : Bus.transact address [.write [r, v]] b = b.transact address [.write [r, v]] := rfl
  rw [hrun, transact]
  split
  · exact .inl ⟨_, rfl⟩
  · split
    · exact .inl ⟨_, rfl⟩
    · by_cases hrefused : [v] ≠ [] ∧ b.refused = some r
      · have hpart : carryOut (.write [r, v]) b = .error .other := if_pos hrefused
        rw [carryOutAll, hpart]
        exact .inl ⟨_, rfl⟩
      · have hpart : carryOut (.write [r, v]) b =
            .ok ([], store { b with pointer := r.toNat } v) := if_neg hrefused
        rw [carryOutAll, hpart]
        exact .inr rfl

/-- A fetch is refused as a whole, or it sets the pointer and fetches from there on. -/
theorem transact_fetch_cases (address r : UInt8) (n : Nat) (b : SimulatedBus) :
    (∃ fault, Bus.transact address [.write [r], .read n] b = (⟨[], some fault⟩, b)) ∨
      Bus.transact address [.write [r], .read n] b =
        (⟨[(fetch n { b with pointer := r.toNat }).1], none⟩,
          (fetch n { b with pointer := r.toNat }).2) := by
  have hrun : Bus.transact address [.write [r], .read n] b =
      b.transact address [.write [r], .read n] := rfl
  rw [hrun, transact]
  split
  · exact .inl ⟨_, rfl⟩
  · split
    · exact .inl ⟨_, rfl⟩
    · exact .inr rfl

instance : RegisterDevice SimulatedBus where
  registers := SimulatedBus.registers
  registers_store {address r v b} h := by
    rcases b.transact_store_cases address r v with ⟨_, hrun⟩ | hrun
    · rw [hrun] at h
      cases h
    · rw [hrun]
      rfl
  registers_fetch {address r n b} h := by
    rcases b.transact_fetch_cases address r n with ⟨_, hrun⟩ | hrun <;> rw [hrun]
    rfl
  received_fetch {address r n b} h := by
    rcases b.transact_fetch_cases address r n with ⟨_, hrun⟩ | hrun
    · rw [hrun] at h
      cases h
    · rw [hrun]
      exact List.append_nil _

end SimulatedBus

/-! ## Registers and journals -/

/-- The registers after a transaction. Only a store that goes through changes them. -/
def Transaction.applyTo (t : Transaction) (f : RegisterFile) : RegisterFile :=
  match t.fault, t.parts with
  | none, [.write [r, v]] => f.set r.toNat v
  | _, _ => f

/-- What a transaction stores, and where, if it does. -/
def Transaction.stored? (t : Transaction) : Option (UInt8 × UInt8) :=
  match t.fault, t.parts with
  | none, [.write [r, v]] => some (r, v)
  | _, _ => none

theorem Transaction.applyTo_eq (t : Transaction) (f : RegisterFile) :
    t.applyTo f = t.stored?.elim f fun p => f.set p.1.toNat p.2 := by
  unfold applyTo stored?
  split <;> rfl

namespace RegisterFile

theorem get_set_ne (f : RegisterFile) {r address : UInt8} (v : UInt8)
    (h : r ≠ address) : (f.set r.toNat v).get address.toNat = f.get address.toNat := by
  rw [get_set, if_neg fun hboth => h (UInt8.toNat_inj.mp hboth.1)]

/-- The registers after all that a journal tells. -/
def replay (f : RegisterFile) (j : Journal) : RegisterFile :=
  j.transactions.foldl (fun f t => t.applyTo f) f

theorem replay_append (f : RegisterFile) (j k : Journal) :
    f.replay (j ++ k) = (f.replay j).replay k := by
  rw [replay, Journal.transactions_append, List.foldl_append]
  rfl

/-- Registers that are not written to keep what they hold. -/
theorem get_replay {sensor : Sensor} {writes : UInt8 → Prop} {address : UInt8}
    (haddress : ¬ writes address) :
    ∀ {j : Journal} (f : RegisterFile), (∀ e ∈ j, sensor.Traffic writes e) →
      (f.replay j).get address.toNat = f.get address.toNat := by
  intro j
  induction j with
  | nil =>
    intro f _
    rfl
  | cons e j ih =>
    intro f h
    have hj := ih (f.replay [e]) fun e he => h e (List.mem_cons_of_mem _ he)
    have hsplit : f.replay (e :: j) = (f.replay [e]).replay j := f.replay_append [e] j
    rw [hsplit, hj]
    -- Only a store that goes through has an effect, and it goes to another register.
    cases h e List.mem_cons_self with
    | @store r v fault hr =>
      cases fault with
      | none =>
        have hne : r ≠ address := by
          rintro rfl
          exact haddress hr
        exact f.get_set_ne v hne
      | some fault => rfl
    | fetch r n fault => cases fault <;> rfl
    | report hn => rfl

/-- The registers after bytes have been put into some of them. -/
def storeAll (f : RegisterFile) (bytes : List (UInt8 × UInt8)) : RegisterFile :=
  bytes.foldl (fun f p => f.set p.1.toNat p.2) f

theorem storeAll_append (f : RegisterFile) (bytes more : List (UInt8 × UInt8)) :
    f.storeAll (bytes ++ more) = (f.storeAll bytes).storeAll more :=
  List.foldl_append

/-- Of bytes put into one register the last one counts, and beyond the last register nothing is
kept. -/
theorem get_storeAll (f : RegisterFile) (bytes : List (UInt8 × UInt8)) (r : UInt8) :
    (f.storeAll bytes).get r.toNat =
      if r.toNat < 18 then (bytes.reverse.lookup r).getD (f.get r.toNat) else 0 := by
  by_cases hr : r.toNat < 18
  · rw [if_pos hr]
    -- On the bytes from the last one back, since the last one decides.
    induction bytes using List.reverseRecOn with
    | nil => rfl
    | append_singleton bytes p ih =>
      have hlast : f.storeAll (bytes ++ [p]) = (f.storeAll bytes).set p.1.toNat p.2 :=
        f.storeAll_append bytes [p]
      rw [hlast, List.reverse_append, List.reverse_singleton, List.singleton_append,
        List.lookup_cons]
      by_cases hp : r = p.1
      · subst hp
        rw [get_set, if_pos ⟨rfl, hr⟩, beq_self_eq_true]
        rfl
      · rw [get_set_ne _ _ fun h => hp h.symm, beq_false_of_ne hp]
        exact ih
  · rw [if_neg hr]
    exact get_of_le _ (Nat.le_of_not_lt hr)

theorem get_storeAll_of_notMem {r : UInt8} {bytes : List (UInt8 × UInt8)} (f : RegisterFile)
    (h : r ∉ bytes.map Prod.fst) : (f.storeAll bytes).get r.toNat = f.get r.toNat := by
  have hnone : bytes.reverse.lookup r = none := by
    refine List.lookup_eq_none_iff.mpr fun p hp => bne_iff_ne.mpr fun heq => h ?_
    rw [heq]
    exact List.mem_map_of_mem (List.mem_reverse.mp hp)
  rw [get_storeAll, hnone, Option.getD_none]
  split
  · rfl
  next hbeyond => exact (f.get_of_le (by omega)).symm

/-- Of bytes for different registers each is found where it was put. -/
theorem get_storeAll_of_mem {p : UInt8 × UInt8} (hp : p.1.toNat < 18) :
    ∀ {bytes : List (UInt8 × UInt8)} (f : RegisterFile), (bytes.map Prod.fst).Nodup →
      p ∈ bytes → (f.storeAll bytes).get p.1.toNat = p.2 := by
  intro bytes
  induction bytes with
  | nil =>
    intro f _ h
    cases h
  | cons q bytes ih =>
    intro f hnodup h
    rw [List.map_cons, List.nodup_cons] at hnodup
    have hrest : f.storeAll (q :: bytes) = (f.set q.1.toNat q.2).storeAll bytes := rfl
    rw [hrest]
    rcases List.mem_cons.mp h with rfl | h
    · rw [get_storeAll_of_notMem _ hnodup.1, get_set, if_pos ⟨rfl, hp⟩]
    · exact ih _ hnodup.2 h

theorem foldl_applyTo (ts : List Transaction) (f : RegisterFile) :
    ts.foldl (fun f t => t.applyTo f) f = f.storeAll (ts.filterMap Transaction.stored?) := by
  induction ts generalizing f with
  | nil => rfl
  | cons t ts ih =>
    rw [List.foldl_cons, ih, t.applyTo_eq, List.filterMap_cons]
    cases t.stored? <;> rfl

theorem foldl_applyTo_storing :
    ∀ (ts : List Transaction) (bytes : List (UInt8 × UInt8)) (f : RegisterFile),
      (∀ t ∈ ts, t.fault = none) → ts.map Transaction.parts = bytes.map Sensor.storing →
      ts.foldl (fun f t => t.applyTo f) f = f.storeAll bytes := by
  intro ts
  -- Transactions and bytes correspond one to one, so the list of bytes is taken apart alongside.
  induction ts with
  | nil =>
    intro bytes f _ h
    rw [List.map_eq_nil_iff.mp h.symm]
    rfl
  | cons t ts ih =>
    intro bytes f hclean h
    obtain ⟨p, bytes, rfl, hp, hbytes⟩ := List.map_eq_cons_iff.mp h.symm
    have ht : t.applyTo f = f.set p.1.toNat p.2 := by
      rw [Transaction.applyTo, hclean t List.mem_cons_self, ← hp]
      rfl
    rw [List.foldl_cons, ht]
    exact ih bytes _ (fun t ht => hclean t (List.mem_cons_of_mem _ ht)) hbytes.symm

end RegisterFile

namespace Sensor

theorem nodup_offsetBytes (offset : Sample) : ((offsetBytes offset).map Prod.fst).Nodup := by
  have haddresses : (offsetBytes offset).map Prod.fst = [0x0A, 0x09, 0x0C, 0x0B, 0x0E, 0x0D] := rfl
  rw [haddresses]
  decide

theorem lt_of_mem_offsetBytes {offset : Sample} {p : UInt8 × UInt8}
    (hp : p ∈ offsetBytes offset) : p.1.toNat < 18 := by
  obtain ⟨axis, half, rfl⟩ := mem_offsetBytes.mp hp
  exact Register.address_lt _

end Sensor

/-! ## Operations on a device -/

section

variable {β : Type} [RegisterDevice β]

open RegisterDevice (registers)

/-- Transactions of a certain kind have on the registers the effect that they are seen to have. -/
structure Relies (β : Type) [RegisterDevice β] (ok : Transaction → Prop) : Prop where
  store : ∀ (address r v : UInt8) (b : β),
    let t : Transaction :=
      ⟨address, [.write [r, v]], (Bus.transact address [.write [r, v]] b).1.fault⟩
    ok t → registers (Bus.transact address [.write [r, v]] b).2 = t.applyTo (registers b)
  fetch : ∀ (address r : UInt8) (n : Nat) (b : β),
    let t : Transaction :=
      ⟨address, [.write [r], .read n], (Bus.transact address [.write [r], .read n] b).1.fault⟩
    ok t → registers (Bus.transact address [.write [r], .read n] b).2 = registers b

theorem relies_of_no_fault : Relies β fun t => t.fault = none where
  store address r v b := by
    intro t ht
    have ht' : (Bus.transact address [.write [r, v]] b).1.fault = none := ht
    rw [RegisterDevice.registers_store ht', Transaction.applyTo, ht]
  fetch address r n b := by
    intro t ht
    exact RegisterDevice.registers_fetch ht

/-- If all transactions made are of a certain kind, the journal tells what becomes of the
registers. -/
def Action.Replays (ok : Transaction → Prop) {ε α : Type} (p : Action β ε α) : Prop :=
  ∀ b, (∀ t ∈ (p.run b).journal.transactions, ok t) →
    registers (p.run b).state = (registers b).replay (p.run b).journal

theorem Action.Replays.bind {ok : Transaction → Prop} {ε α γ : Type} {p : Action β ε α}
    {f : α → Action β ε γ} (hp : p.Replays ok) (hf : ∀ a, (f a).Replays ok) :
    (p >>= f).Replays ok := by
  intro b h
  cases hres : (p.run b).result with
  | error e =>
    rw [run_bind_error hres] at h ⊢
    exact hp b h
  | ok a =>
    rw [run_bind_ok hres] at h ⊢
    rw [Journal.transactions_append, List.forall_mem_append] at h
    rw [RegisterFile.replay_append, ← hp b h.1]
    exact hf a _ h.2

theorem Action.Replays.tryAll {ok : Transaction → Prop} {ε α : Type} {f : α → Action β ε Unit} :
    ∀ {l : List α}, (∀ a ∈ l, (f a).Replays ok) → (tryAll f l).Replays ok := by
  intro l
  induction l with
  | nil =>
    intro _ b _
    rfl
  | cons a l ih =>
    intro hf b h
    rw [run_tryAll_cons] at h ⊢
    rw [Journal.transactions_append, List.forall_mem_append] at h
    rw [RegisterFile.replay_append, ← hf a List.mem_cons_self b h.1]
    exact ih (fun b hb => hf b (List.mem_cons_of_mem _ hb)) _ h.2

namespace Sensor

theorem closed_replays (sensor : Sensor) (writes : UInt8 → Prop) {ok : Transaction → Prop}
    (hok : Relies β ok) :
    sensor.Closed writes fun {_} (p : Action β Error _) => p.Replays ok where
  pure _ := fun _ _ => rfl
  bind hp hf := .bind hp hf
  report _ := fun _ _ => rfl
  tryAll hf := .tryAll hf
  store {r} v _ := by
    intro b h
    rw [run_writeRegister] at h ⊢
    exact hok.store sensor.address r v b (h _ (List.mem_singleton_self _))
  fetch r n := by
    intro b h
    rw [run_readBytes] at h ⊢
    rw [hok.fetch sensor.address r n b (h _ (List.mem_singleton_self _))]
    cases (Bus.transact sensor.address [.write [r], .read n] b).1.fault <;> rfl

/-- What an operation that meets no failure does not write to stays as it was. -/
theorem get_of_traffic {sensor : Sensor} {writes : UInt8 → Prop} {ε α : Type} {p : Action β ε α}
    (htraffic : p.Entries (sensor.Traffic writes))
    (hreplays : p.Replays fun t => t.fault = none) {b : β} (hclean : (p.run b).journal.Clean)
    {address : UInt8} (haddress : ¬ writes address) :
    (registers (p.run b).state).get address.toNat = (registers b).get address.toNat := by
  rw [hreplays b hclean]
  exact RegisterFile.get_replay haddress _ (htraffic b)

/-! ### Fetching words -/

theorem readBytes_of_clean {sensor : Sensor} {r : UInt8} {n : Nat} {b : β}
    (h : ((sensor.readBytes r n).run b).journal.Clean) :
    ((sensor.readBytes r n).run b).result = .ok ((registers b).burst r.toNat n) ∧
      registers ((sensor.readBytes r n).run b).state = registers b := by
  rw [run_readBytes] at h ⊢
  have hfault := h _ (List.mem_singleton_self _)
  dsimp only at hfault ⊢
  rw [hfault, RegisterDevice.received_fetch hfault]
  exact ⟨rfl, RegisterDevice.registers_fetch hfault⟩

theorem readWord_of_clean {sensor : Sensor} {r : UInt8} {b : β}
    (h : ((sensor.readWord r).run b).journal.Clean) :
    ((sensor.readWord r).run b).result =
        .ok (BigEndian.ofBytes ((registers b).get r.toNat) ((registers b).get (r.toNat + 1))) ∧
      registers ((sensor.readWord r).run b).state = registers b := by
  unfold readWord at h ⊢
  obtain ⟨_, -, hclean, -⟩ := (sensor.closed_reports.fetch r 2).bind_of_clean h
  obtain ⟨hbytes, hregisters⟩ := readBytes_of_clean hclean
  rw [Action.run_bind_ok hbytes]
  exact ⟨rfl, hregisters⟩

/-- Fetching the words of a block finds the sample that lies there. -/
theorem readAxes_of_clean {sensor : Sensor} {block : Axis → Half → Register} {start : Nat}
    (hblock : Register.Consecutive block start) {b : β}
    (h : ((sensor.readAxes block).run b).journal.Clean) :
    ((sensor.readAxes block).run b).result = .ok ((registers b).sampleAt block) ∧
      registers ((sensor.readAxes block).run b).state = registers b := by
  unfold readAxes at h ⊢
  obtain ⟨x, hx, hclean, h⟩ := (sensor.closed_reports.readWord _).bind_of_clean h
  obtain ⟨hx', hregisters⟩ := readWord_of_clean hclean
  obtain ⟨y, hy, hclean, h⟩ := (sensor.closed_reports.readWord _).bind_of_clean h
  obtain ⟨hy', hregisters'⟩ := readWord_of_clean hclean
  obtain ⟨z, hz, hclean, -⟩ := (sensor.closed_reports.readWord _).bind_of_clean h
  obtain ⟨hz', hregisters''⟩ := readWord_of_clean hclean
  rw [Action.run_bind_ok hx, Action.run_bind_ok hy, Action.run_bind_ok hz]
  -- Every word is fetched from the registers as they were at first.
  rw [hregisters] at hy' hregisters'
  rw [hregisters'] at hz' hregisters''
  refine ⟨congrArg Except.ok (Sample.ext_axis fun axis => ?_), hregisters''⟩
  have hlow : (block axis .low).address.toNat = (block axis .high).address.toNat + 1 := by
    rw [hblock, hblock]
    rfl
  rw [RegisterFile.sampleAt, Sample.along_ofAxes, hlow]
  cases axis with
  | x => exact Except.ok.inj (hx.symm.trans hx')
  | y => exact Except.ok.inj (hy.symm.trans hy')
  | z => exact Except.ok.inj (hz.symm.trans hz')

theorem readOffset_of_clean {sensor : Sensor} {b : β}
    (h : (sensor.readOffset.run b).journal.Clean) :
    (sensor.readOffset.run b).result = .ok ((registers b).sampleAt .offset) ∧
      registers (sensor.readOffset.run b).state = registers b :=
  readAxes_of_clean Register.consecutive_offset h

/-! ### Storing bytes -/

theorem registers_of_parts {ε α : Type} {p : Action β ε α}
    (hreplays : p.Replays fun t => t.fault = none) {b : β} (hclean : (p.run b).journal.Clean)
    {bytes : List (UInt8 × UInt8)}
    (hparts : (p.run b).journal.transactions.map Transaction.parts = bytes.map storing) :
    registers (p.run b).state = (registers b).storeAll bytes := by
  rw [hreplays b hclean]
  exact RegisterFile.foldl_applyTo_storing _ bytes _ hclean hparts

theorem registers_writeOffset {sensor : Sensor} {offset : Sample} {b : β}
    (h : ((sensor.writeOffset offset).run b).journal.Clean) :
    registers ((sensor.writeOffset offset).run b).state =
      (registers b).storeAll (offsetBytes offset) := by
  have hreplays := (sensor.closed_replays (β := β) OffsetAddress relies_of_no_fault).writeOffset
    offset fun _ hr => hr
  exact registers_of_parts hreplays h (sensor.parts_writeOffset offset b)

/-- Clearing the stored offset is storing zero. -/
theorem registers_clearOffset {sensor : Sensor} {b : β}
    (h : ((sensor.apply Setting.clearOffset).run b).journal.Clean) :
    registers ((sensor.apply Setting.clearOffset).run b).state =
      (registers b).storeAll (offsetBytes .zero) := by
  have hreplays := (sensor.closed_replays (β := β) _ relies_of_no_fault).apply Setting.clearOffset
    fun _ hr => hr
  have hzero : Setting.clearOffset.map settingParts = (offsetBytes .zero).map storing := rfl
  exact registers_of_parts hreplays h
    (((sensor.follows_apply Setting.clearOffset b).parts_of_clean h).trans hzero)

end Sensor

end

end Magnetometer
