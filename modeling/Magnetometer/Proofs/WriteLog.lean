import Mathlib.Data.List.Basic
import Magnetometer.Proofs.Device

/-!
# The log of a simulated bus

A simulated bus keeps a log of the bytes that were written to it. The log is good for one thing: to
tell what became of the registers since it was cleared. What became of them is told by the bytes
themselves, each with the address at which it was stored (`Part.stores`), whatever else was done and
however much of it was refused (`Tells`).

The log has a byte for an address, and the addresses of a long write go on beyond that. The log is
right as long as no write gets there, and no longer: a byte that was stored nowhere is then reported
for one of the registers (`log_names_wrong_register`).

Main statement: `log_right_iff`.
-/

namespace Magnetometer

namespace Part

/-- The bytes that a part has stored when it is carried out, each with its address. -/
def stores : Part → List (Nat × UInt8)
  | .write (register :: data) => (data.zipIdx register.toNat).map Prod.swap
  | _ => []

/-- Whether all addresses at which the part has bytes stored are bytes. -/
def Addressable : Part → Prop
  | .write (register :: data) => register.toNat + data.length ≤ 256
  | _ => True

instance (part : Part) : Decidable part.Addressable :=
  match part with
  | .write (_ :: _) => inferInstanceAs (Decidable (_ ≤ _))
  | .write [] => inferInstanceAs (Decidable True)
  | .read _ => inferInstanceAs (Decidable True)

theorem addressable_iff (part : Part) : part.Addressable ↔ ∀ p ∈ part.stores, p.1 < 256 := by
  match part with
  | .write [] => exact iff_of_true trivial nofun
  | .read _ => exact iff_of_true trivial nofun
  | .write (register :: data) =>
    have hregister := register.toNat_lt
    constructor
    · intro h p hp
      obtain ⟨q, hq, rfl⟩ := List.mem_map.mp hp
      exact Nat.lt_of_lt_of_le (List.snd_lt_add_of_mem_zipIdx hq) h
    · intro h
      show register.toNat + data.length ≤ 256
      rcases List.eq_nil_or_concat' data with rfl | ⟨before, v, rfl⟩
      · exact Nat.le_of_lt hregister
      · -- The last byte has the highest address.
        have hlast : (v, register.toNat + before.length) ∈
            (before ++ [v]).zipIdx register.toNat := by
          rw [List.mk_add_mem_zipIdx_iff_getElem?]
          exact List.getElem?_concat_length
        have := h _ (List.mem_map_of_mem hlast)
        rw [List.length_append]
        exact this

end Part

namespace RegisterFile

/-- The file with bytes put at addresses. -/
def storeAt (f : RegisterFile) (bytes : List (Nat × UInt8)) : RegisterFile :=
  bytes.foldl (fun f p => f.set p.1 p.2) f

theorem storeAt_append (f : RegisterFile) (bytes more : List (Nat × UInt8)) :
    f.storeAt (bytes ++ more) = (f.storeAt bytes).storeAt more :=
  List.foldl_append

theorem set_of_le (f : RegisterFile) {i : Nat} (v : UInt8) (h : 18 ≤ i) : f.set i v = f := by
  refine ext_get fun j _ => ?_
  rw [get_set, if_neg (by omega)]

/-- Bytes for addresses beyond the last register may be left out. -/
theorem storeAll_filter (f : RegisterFile) (bytes : List (UInt8 × UInt8)) :
    f.storeAll (bytes.filter fun p => p.1.toNat < 18) =
      f.storeAt (bytes.map fun p => (p.1.toNat, p.2)) := by
  induction bytes generalizing f with
  | nil => rfl
  | cons p bytes ih =>
    rw [List.map_cons]
    show _ = (f.set p.1.toNat p.2).storeAt _
    by_cases h : p.1.toNat < 18
    · rw [List.filter_cons_of_pos (by simpa using h), ← ih]
      rfl
    · rw [List.filter_cons_of_neg (by simpa using h), ih, f.set_of_le _ (by omega)]

end RegisterFile

namespace SimulatedBus

/-! ## What is carried out -/

/-- Whether the device carries out a part. -/
def accepts (b : SimulatedBus) : Part → Bool
  | .write (register :: data) => data = [] ∨ b.refused ≠ some register
  | _ => true

/-- The device when it has carried out a part. -/
def after (b : SimulatedBus) : Part → SimulatedBus
  | .write [] => b
  | .write (register :: data) => data.foldl store { b with pointer := register.toNat }
  | .read count => (b.fetch count).2

theorem carryOut_of_accepts {b : SimulatedBus} {part : Part} (h : b.accepts part = true) :
    ∃ received, b.carryOut part = .ok (received, b.after part) := by
  match part with
  | .write [] => exact ⟨_, rfl⟩
  | .read _ => exact ⟨_, rfl⟩
  | .write (register :: data) =>
    refine ⟨[], if_neg fun hrefused => ?_⟩
    rcases of_decide_eq_true h with hnone | hother
    · exact hrefused.1 hnone
    · exact hother hrefused.2

theorem carryOut_of_not_accepts {b : SimulatedBus} {part : Part} (h : b.accepts part = false) :
    b.carryOut part = .error .other := by
  match part with
  | .write [] => cases h
  | .read _ => cases h
  | .write (register :: data) =>
    have hrefused := not_or.mp (of_decide_eq_false h)
    exact if_pos ⟨hrefused.1, not_not.mp hrefused.2⟩

theorem settings_foldl_store (data : List UInt8) :
    ∀ b : SimulatedBus, (data.foldl store b).failing = b.failing ∧
      (data.foldl store b).refused = b.refused := by
  induction data with
  | nil => exact fun _ => ⟨rfl, rfl⟩
  | cons v data ih => exact fun b => ih (b.store v)

/-- Nothing that a transaction does has to do with what fails or is refused. -/
theorem settings_after (b : SimulatedBus) (part : Part) :
    (b.after part).failing = b.failing ∧ (b.after part).refused = b.refused := by
  match part with
  | .write [] => exact ⟨rfl, rfl⟩
  | .read _ => exact ⟨rfl, rfl⟩
  | .write (register :: data) => exact settings_foldl_store data _

theorem accepts_after (b : SimulatedBus) (part : Part) : (b.after part).accepts = b.accepts := by
  funext other
  unfold accepts
  rw [(b.settings_after part).2]

theorem carryOutAll_eq (parts : List Part) :
    ∀ b : SimulatedBus, (carryOutAll parts b).2 = (parts.takeWhile b.accepts).foldl after b := by
  induction parts with
  | nil => exact fun _ => rfl
  | cons part parts ih =>
    intro b
    rw [carryOutAll]
    cases h : b.accepts part with
    | true =>
      obtain ⟨received, hreceived⟩ := carryOut_of_accepts h
      rw [hreceived, List.takeWhile_cons_of_pos h]
      show (carryOutAll parts (b.after part)).2 = _
      rw [ih, accepts_after]
      rfl
    | false =>
      rw [carryOut_of_not_accepts h, List.takeWhile_cons_of_neg (by rw [h]; decide)]
      rfl

/-- The parts of a transaction that the device carries out. -/
def carried (b : SimulatedBus) (address : UInt8) (parts : List Part) : List Part :=
  if b.failing ∨ address ≠ factoryAddress then [] else parts.takeWhile b.accepts

theorem transact_eq (b : SimulatedBus) (address : UInt8) (parts : List Part) :
    (Bus.transact address parts b).2 = (b.carried address parts).foldl after b := by
  show (b.transact address parts).2 = _
  unfold transact carried
  by_cases hfailing : b.failing = true
  · rw [if_pos hfailing, if_pos (.inl hfailing)]
    rfl
  · by_cases haddress : address = factoryAddress
    · rw [if_neg hfailing, if_neg (not_not.mpr haddress),
        if_neg (not_or.mpr ⟨hfailing, not_not.mpr haddress⟩)]
      exact carryOutAll_eq parts b
    · rw [if_neg hfailing, if_pos haddress, if_pos (.inr haddress)]
      rfl

/-! ## What is logged -/

/-- From one state of the device to another, the registers have taken the given bytes, and the log
has grown by them, of each address the low byte. -/
structure Tells (b b' : SimulatedBus) (stored : List (Nat × UInt8)) : Prop where
  registers : b'.registers = b.registers.storeAt stored
  writes : b'.writes = b.writes ++ stored.map fun p => (UInt8.ofNat p.1, p.2)

namespace Tells

variable {b b' b'' : SimulatedBus} {stored more : List (Nat × UInt8)}

theorem refl (b : SimulatedBus) : b.Tells b [] := ⟨rfl, (List.append_nil _).symm⟩

theorem trans (h : b.Tells b' stored) (h' : b'.Tells b'' more) :
    b.Tells b'' (stored ++ more) := by
  refine ⟨?_, ?_⟩
  · rw [h'.registers, h.registers, RegisterFile.storeAt_append]
  · rw [h'.writes, h.writes, List.map_append, List.append_assoc]

theorem foldl_store (data : List UInt8) :
    ∀ b : SimulatedBus, b.Tells (data.foldl store b)
      ((data.zipIdx b.pointer).map Prod.swap) := by
  induction data with
  | nil => exact refl
  | cons v data ih =>
    intro b
    have hfirst : b.Tells (b.store v) [(b.pointer, v)] := ⟨rfl, rfl⟩
    exact hfirst.trans (ih (b.store v))

theorem after (b : SimulatedBus) (part : Part) : b.Tells (b.after part) part.stores := by
  match part with
  | .write [] => exact refl b
  | .read _ => exact ⟨rfl, (List.append_nil _).symm⟩
  | .write (register :: data) =>
    obtain ⟨hregisters, hwrites⟩ := foldl_store data { b with pointer := register.toNat }
    exact ⟨hregisters, hwrites⟩

theorem foldl_after (parts : List Part) :
    ∀ b : SimulatedBus, b.Tells (parts.foldl SimulatedBus.after b) (parts.flatMap Part.stores) := by
  induction parts with
  | nil => exact refl
  | cons part parts ih =>
    intro b
    exact (after b part).trans (ih (b.after part))

end Tells

/-! ## Any use of a device -/

/-- What may be done to a device, apart from putting bytes into its registers and clearing its
log. -/
inductive Use
  | transact (address : UInt8) (parts : List Part)
  | fail (failing : Bool)
  | refuse (register : Option UInt8)
  | setLine (high : Bool)

def use (b : SimulatedBus) : Use → SimulatedBus
  | .transact address parts => (Bus.transact address parts b).2
  | .fail failing => { b with failing := failing }
  | .refuse register => { b with refused := register }
  | .setLine high => { b with dataReady := high }

/-- The parts of transactions that the device carries out in some uses of it. -/
def carriedAll : List Use → SimulatedBus → List Part
  | [], _ => []
  | .transact address parts :: uses, b =>
    b.carried address parts ++ carriedAll uses (b.use (.transact address parts))
  | u :: uses, b => carriedAll uses (b.use u)

theorem Tells.foldl_use (uses : List Use) :
    ∀ b : SimulatedBus, b.Tells (uses.foldl use b) ((carriedAll uses b).flatMap Part.stores) := by
  induction uses with
  | nil => exact refl
  | cons u uses ih =>
    intro b
    have hrest := ih (b.use u)
    cases u with
    | transact address parts =>
      have hfirst : b.Tells (b.use (.transact address parts))
          ((b.carried address parts).flatMap Part.stores) := by
        rw [use, transact_eq]
        exact foldl_after _ b
      rw [carriedAll, List.flatMap_append]
      exact hfirst.trans hrest
    | fail failing => exact ⟨hrest.registers, hrest.writes⟩
    | refuse register => exact ⟨hrest.registers, hrest.writes⟩
    | setLine high => exact ⟨hrest.registers, hrest.writes⟩

/-- Let the log of a device be cleared and then anything be done to the device but to put bytes into
its registers. The registers hold what was written to them by the parts that were carried out, byte
after byte at consecutive addresses. The log holds the same bytes with the low bytes of their
addresses. So it tells where the bytes were written just if the addresses are bytes, for every
part that was carried out; and then what it tells for registers that there are, done to the
registers as they were, gives them as they are. -/
theorem log_right_iff (bus : SimulatedBus) (uses : List Use) :
    let start := bus.clearLog
    let last := uses.foldl use start
    let carried := carriedAll uses start
    let stored := carried.flatMap Part.stores
    let logged := last.writes.map fun entry => (entry.1.toNat, entry.2)
    last.registers = start.registers.storeAt stored ∧
      logged = stored.map (fun p => (p.1 % 256, p.2)) ∧
      (logged = stored ↔ ∀ part ∈ carried, part.Addressable) ∧
      ((∀ part ∈ carried, part.Addressable) →
        start.registers.storeAll (last.writes.filter fun entry => entry.1.toNat < 18) =
          last.registers) := by
  intro start last carried stored logged
  obtain ⟨hregisters, hwrites⟩ : start.Tells last stored := Tells.foldl_use uses start
  have hlogged : logged = stored.map fun p => (p.1 % 256, p.2) := by
    show last.writes.map _ = _
    have hclear : start.writes = [] := rfl
    rw [hwrites, hclear, List.nil_append, List.map_map]
    refine List.map_congr_left fun p _ => Prod.ext ?_ rfl
    exact UInt8.toNat_ofNat'
  have hright : logged = stored ↔ ∀ part ∈ carried, part.Addressable := by
    have hall : (∀ part ∈ carried, part.Addressable) ↔ ∀ p ∈ stored, p.1 < 256 := by
      simp only [Part.addressable_iff, stored, List.mem_flatMap]
      exact ⟨fun h p ⟨part, hpart, hp⟩ => h part hpart p hp,
        fun h part hpart p hp => h p ⟨part, hpart, hp⟩⟩
    rw [hall, hlogged]
    have hself : stored.map (fun p => (p.1 % 256, p.2)) = stored ↔
        ∀ p ∈ stored, (p.1 % 256, p.2) = p := by
      rw [← List.map_inj_left, List.map_id']
    rw [hself]
    refine forall₂_congr fun p _ => ?_
    rw [Prod.ext_iff, and_iff_left rfl]
    exact Nat.mod_eq_iff_lt (by decide)
  refine ⟨hregisters, hlogged, hright, fun hbytes => ?_⟩
  rw [RegisterFile.storeAll_filter, hregisters, ← hright.mpr hbytes]

/-- A write past the last address that is a byte. The second byte is stored nowhere, but the log has
it for the first register. -/
theorem log_names_wrong_register :
    let start : SimulatedBus := clearLog {}
    let last := [Use.transact factoryAddress [.write [255, 1, 2]]].foldl use start
    last.registers = start.registers ∧ last.writes = [(255, 1), (0, 2)] ∧
      start.registers.storeAll (last.writes.filter fun entry => entry.1.toNat < 18) ≠
        last.registers := by
  decide

/-- A long write over the last register, a write that is refused between two others, and an
outage. -/
theorem log_right_through_refusals :
    let start : SimulatedBus := clearLog (storeOffset ⟨-2, 300, 5⟩ {})
    let last := [Use.transact factoryAddress [.write [16, 1, 2, 3, 4], .read 2], .refuse (some 9),
      .transact factoryAddress [.write [1, 7], .write [9, 5, 6], .write [2, 8]], .fail true,
      .transact factoryAddress [.write [3, 9]]].foldl use start
    last.writes = [(16, 1), (17, 2), (18, 3), (19, 4), (1, 7)] ∧
      start.registers.storeAll (last.writes.filter fun entry => entry.1.toNat < 18) =
        last.registers := by
  intro start last
  have hbytes : ∀ part ∈ [Part.write [16, 1, 2, 3, 4], .read 2, .write [1, 7]],
      part.Addressable := by decide
  exact ⟨by decide, (log_right_iff _ _).2.2.2 hbytes⟩

end SimulatedBus

end Magnetometer
