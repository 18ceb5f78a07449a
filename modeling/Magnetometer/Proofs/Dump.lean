import Magnetometer.Proofs.Numeral
import Magnetometer.Proofs.Table

/-!
# Dumps

A dump goes through a list of registers, one transaction for each, to its end or to the first
transaction that fails. A register that is read is shown at once, on a line of its own, so there are
as many lines as registers read; and as nothing is written, each line shows what the register has
held all along (`Sensor.journal_dump`).

A line ends with the address of the register and with its value written three times, in columns of
fixed width. They are read back from the end of the line, each on its own, so that it is seen that
they agree (`Showing.ofText?_registerDump`).

The one thing that a dump does to the device is that it fetches the first byte of a reading when it
comes to that register (`Sensor.takes_showings`).

Main statement: `dump_shows_registers`.
-/

namespace Magnetometer

open RegisterDevice (registers)
open SteadyDevice (announced sticky)

/-! ## Lines -/

/-- What a line of a dump shows: an address, and a value in each of three ways of writing it. -/
structure Showing where
  address : UInt8
  hexadecimal : UInt8
  decimal : UInt8
  binary : UInt8
  deriving DecidableEq

/-- What a line of a dump shows, found from its last 29 characters. -/
def Showing.ofText? (text : List Char) : Option Showing := do
  let (address, rest) ← Numeral.field? "(0x" 2 (text.drop (text.length - 29))
  let (hexadecimal, rest) ← Numeral.field? "): 0x" 2 rest
  let (decimal, rest) ← Numeral.field? " (" 3 rest
  let (binary, _) ← Numeral.field? ") 0b" 8 rest
  return ⟨← Numeral.byte? 16 address, ← Numeral.byte? 16 hexadecimal,
    ← Numeral.byte? 10 (decimal.dropWhile (· = ' ')), ← Numeral.byte? 2 binary⟩

/-- Whatever the name of the register, its address and value are found, the value three times. -/
theorem Showing.ofText?_registerDump (name : String) (address value : UInt8) :
    ofText? (Notice.registerDump name address value).text =
      some ⟨address, value, value, value⟩ := by
  have hending : Notice.dumpTail address value =
      "(0x".toList ++ (Numeral.hexByte address ++
        ("): 0x".toList ++ (Numeral.upperHexByte value ++
          (" (".toList ++ (Numeral.padLeft 3 (Numeral.decimal value.toNat) ++
            (") 0b".toList ++ (Numeral.binaryByte value ++ []))))))) := by
    unfold Notice.dumpTail
    simp only [List.append_assoc, List.append_nil]
  have hline : (Notice.registerDump name address value).text =
      Numeral.padRight 21 name.toList ++ Notice.dumpTail address value := rfl
  have haddress := Numeral.byte?_eq_some (Numeral.read?_hexByte address)
  have hhexadecimal := Numeral.byte?_eq_some (Numeral.read?_upperHexByte value)
  have hdecimal := Numeral.byte?_eq_some (Numeral.read?_decimal value.toNat)
  have hbinary := Numeral.byte?_eq_some (Numeral.read?_binaryByte value)
  rw [ofText?, hline, Numeral.drop_length_sub (Notice.length_dumpTail address value), hending]
  simp only [Option.bind_eq_bind, Option.bind_some, Option.pure_def,
    Numeral.field?_append (Numeral.length_hexByte address),
    Numeral.field?_append (Numeral.length_upperHexByte value),
    Numeral.field?_append (Numeral.length_padLeft_decimal value),
    Numeral.field?_append (Numeral.length_binaryByte value),
    Numeral.dropWhile_padLeft_decimal, haddress, hhexadecimal, hdecimal, hbinary]

/-! ## What is made and shown -/

section

variable {β ρ : Type} [NamedRegister ρ]

namespace Sensor

/-- The transaction by which a register is read. -/
def fetching (sensor : Sensor) (fault : Option Fault) (register : ρ) : Transaction :=
  sensor.attempted fault [.write [NamedRegister.address register], .read 1]

/-- The journal of registers that are read and shown, given what they hold. -/
def showings (sensor : Sensor) (held : RegisterFile) (list : List ρ) : Journal :=
  list.flatMap fun register =>
    [.transaction (sensor.fetching none register),
      .notice (.registerDump (NamedRegister.name register) (NamedRegister.address register)
        (held.get (NamedRegister.address register).toNat))]

theorem transactions_showings (sensor : Sensor) (held : RegisterFile) (list : List ρ) :
    (sensor.showings held list).transactions = list.map (sensor.fetching none) := by
  rw [Journal.transactions, showings, List.filterMap_flatMap, List.map_eq_flatMap]
  rfl

theorem notices_showings (sensor : Sensor) (held : RegisterFile) (list : List ρ) :
    (sensor.showings held list).notices = list.map fun register =>
      .registerDump (NamedRegister.name register) (NamedRegister.address register)
        (held.get (NamedRegister.address register).toNat) := by
  rw [Journal.notices, showings, List.filterMap_flatMap, List.map_eq_flatMap]
  rfl

/-- A reading is taken exactly if its first register is among those that are read. -/
theorem takes_showings (sensor : Sensor) (held : RegisterFile) (list : List ρ) :
    (sensor.showings held list).takes = decide (1 ∈ list.map NamedRegister.address) := by
  have htakes (register : ρ) :
      (sensor.fetching none register).takes = true ↔ NamedRegister.address register = 1 := by
    refine decide_eq_true_iff.trans ?_
    rw [UInt8.toNat_inj.symm]
    show _ ≤ 1 ∧ 1 < _ + 1 ↔ _ = 1
    omega
  rw [Journal.takes, transactions_showings, List.any_map, Bool.eq_iff_iff, List.any_eq_true,
    decide_eq_true_iff, List.mem_map]
  simp only [Function.comp_apply, htakes]

variable [SteadyDevice β]

/-- A register is read and shown, or it cannot be read. In neither case does a register change. -/
theorem journal_dumpOne (sensor : Sensor) (register : ρ) (b : β) :
    let out := (sensor.dumpOne register).run b
    registers out.state = registers b ∧
      (out.result = .ok () ∧ out.journal = sensor.showings (registers b) [register] ∨
        ∃ fault, out.result = .error (.bus fault) ∧
          out.journal = [.transaction (sensor.fetching (some fault) register)]) := by
  intro out
  let address := NamedRegister.address register
  have hrun : out = _ := sensor.run_readRegister_log address
    (.registerDump (NamedRegister.name register) address) b
  rw [hrun]
  dsimp only
  cases hfault : (Bus.transact sensor.address [.write [address], .read 1] b).1.fault with
  | none =>
    rw [RegisterDevice.received_fetch hfault]
    exact ⟨RegisterDevice.registers_fetch hfault, .inl ⟨rfl, rfl⟩⟩
  | some fault => exact ⟨SteadyDevice.registers_refused_fetch hfault, .inr ⟨fault, rfl, rfl⟩⟩

/-- Registers are read and shown in order, to the end of the list or to the first one that cannot be
read. -/
theorem journal_dump (sensor : Sensor) (list : List ρ) (b : β) :
    let out := (sensor.dump list).run b
    registers out.state = registers b ∧
      ∃ shown rest, list = shown ++ rest ∧
        match rest with
        | [] => out.result = .ok () ∧ out.journal = sensor.showings (registers b) shown
        | failed :: _ => ∃ fault, out.result = .error (.bus fault) ∧
          out.journal = sensor.showings (registers b) shown ++
            [.transaction (sensor.fetching (some fault) failed)] := by
  -- On the registers still to be shown. To show the earlier ones has not changed what these hold.
  induction list generalizing b with
  | nil => exact ⟨rfl, [], [], rfl, rfl, rfl⟩
  | cons register list ih =>
    intro out
    have hcons : (sensor.dump (register :: list) : Action β Error Unit) =
        sensor.dumpOne register >>= fun _ => sensor.dump list := rfl
    obtain ⟨hregisters, ⟨hok, hjournal⟩ | ⟨fault, hfailed, hjournal⟩⟩ :=
      sensor.journal_dumpOne register b
    · have hrun : out = _ := (congrArg (Action.run · b) hcons).trans (Action.run_bind_ok hok)
      obtain ⟨hregisters', shown, rest, hsplit, hmade⟩ := ih ((sensor.dumpOne register).run b).state
      rw [hregisters] at hregisters' hmade
      rw [hrun]
      refine ⟨hregisters', register :: shown, rest, congrArg (register :: ·) hsplit, ?_⟩
      have hshowings : sensor.showings (registers b) (register :: shown) =
          sensor.showings (registers b) [register] ++ sensor.showings (registers b) shown := rfl
      rw [hjournal]
      cases rest with
      | nil => exact ⟨hmade.1, congrArg (_ ++ ·) hmade.2⟩
      | cons failed rest =>
        obtain ⟨fault, hfailed, hjournal'⟩ := hmade
        refine ⟨fault, hfailed, ?_⟩
        rw [hshowings, List.append_assoc]
        exact congrArg (_ ++ ·) hjournal'
    · have hrun : out = _ :=
        (congrArg (Action.run · b) hcons).trans (Action.run_bind_error hfailed)
      rw [hrun]
      exact ⟨hregisters, [], register :: list, rfl, fault, rfl, hjournal⟩

end Sensor

end

/-- On a steady device a dump reads registers in order, one byte from each, and says at once what it
has read; it goes on to the end of the list or to the first register that cannot be read. No
register changes, and a reading stays announced unless its first byte is among the bytes read. There
is one line for each register read. It names the register, in a column of 21 characters which a
longer name overruns, and in 29 further characters it gives the address and three times what the
device holds there, which is zero beyond the last register. Address and value are found again in
these characters, each way of writing the value giving the same. -/
theorem dump_shows_registers {β ρ : Type} [SteadyDevice β] [NamedRegister ρ] (sensor : Sensor)
    (list : List ρ) (b : β) :
    let out := (sensor.dump list).run b
    let held (register : ρ) : UInt8 :=
      let address := (NamedRegister.address register).toNat
      if address < 18 then (registers b).get address else 0
    let fetch (fault : Option Fault) (register : ρ) : Entry :=
      .transaction ⟨sensor.address, [.write [NamedRegister.address register], .read 1], fault⟩
    let log := out.journal.notices.map Notice.text
    ∃ shown rest, list = shown ++ rest ∧
      (let showings := shown.flatMap fun register =>
        [fetch none register,
          .notice (.registerDump (NamedRegister.name register) (NamedRegister.address register)
            (held register))]
      match rest with
      | [] => out.result = .ok () ∧ out.journal = showings
      | failed :: _ => ∃ fault, out.result = .error (.bus fault) ∧
        out.journal = showings ++ [fetch (some fault) failed]) ∧
      registers out.state = registers b ∧
      announced out.state =
        (announced b && (sticky b || decide (1 ∉ shown.map NamedRegister.address))) ∧
      log = shown.map (fun register =>
        Numeral.padRight 21 (NamedRegister.name register).toList ++
          ("(0x".toList ++ Numeral.hexByte (NamedRegister.address register) ++
            "): 0x".toList ++ Numeral.upperHexByte (held register) ++
            " (".toList ++ Numeral.padLeft 3 (Numeral.decimal (held register).toNat) ++
            ") 0b".toList ++ Numeral.binaryByte (held register))) ∧
      log.map List.length =
        shown.map (fun register => max 21 (NamedRegister.name register).toList.length + 29) ∧
      log.map Showing.ofText? = shown.map fun register =>
        some ⟨NamedRegister.address register, held register, held register, held register⟩ := by
  intro out held fetch log
  have hheld : held = fun register => (registers b).get (NamedRegister.address register).toNat := by
    funext register
    by_cases hlast : (NamedRegister.address register).toNat < 18
    · exact if_pos hlast
    · exact (if_neg hlast).trans (RegisterFile.get_of_le _ (Nat.le_of_not_lt hlast)).symm
  rw [hheld]
  obtain ⟨hregisters, shown, rest, hsplit, hmade⟩ := sensor.journal_dump list b
  have hannounces := (sensor.closed_announces (β := β) fun _ => False).dump list b
  have hjournal : out.journal.notices = (sensor.showings (registers b) shown).notices ∧
      out.journal.takes = (sensor.showings (registers b) shown).takes := by
    cases rest with
    | nil => exact ⟨congrArg _ hmade.2, congrArg _ hmade.2⟩
    | cons failed rest =>
      -- The transaction that failed is not shown and takes nothing.
      obtain ⟨fault, -, hjournal⟩ := hmade
      rw [hjournal, Journal.notices_append, Journal.takes_append, Journal.takes_singleton]
      exact ⟨List.append_nil _, Bool.or_false _⟩
  have hlog : log = shown.map fun register => (Notice.registerDump (NamedRegister.name register)
      (NamedRegister.address register)
      ((registers b).get (NamedRegister.address register).toNat)).text := by
    simp only [log, hjournal.1, Sensor.notices_showings, List.map_map]
    rfl
  refine ⟨shown, rest, hsplit, hmade, hregisters, ?_, hlog, ?_, ?_⟩
  · rw [hannounces.announced_eq, hjournal.2, Sensor.takes_showings, decide_not]
  · rw [hlog, List.map_map]
    refine List.map_congr_left fun register _ => ?_
    show (Numeral.padRight 21 _ ++ Notice.dumpTail _ _).length = _
    rw [List.length_append, Numeral.length_padRight, Notice.length_dumpTail]
  · rw [hlog, List.map_map]
    exact List.map_congr_left fun register _ => Showing.ofText?_registerDump _ _ _

end Magnetometer
