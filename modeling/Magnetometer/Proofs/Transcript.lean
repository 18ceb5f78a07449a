import Magnetometer.Proofs.Numeral
import Magnetometer.Proofs.Table

/-!
# The log as a transcript

When a table of settings is gone through, the log tells what went over the bus. To say so one has to
know what went over the bus, replies included. So somebody listens there: `Tapped` is a bus that
keeps all that is heard on it. An operation on a tapped bus comes to the same as on the bus alone
(`Overheard`), hence what is heard is what would have been there to hear.

Of what is heard an `Exchange` is what the log can tell: a byte written to an address, also if the
device refused it, since the write is reported before it is tried; and a byte read from an address,
only if it arrived, since the read is reported afterwards. The lines can be read again whatever
names the registers have, because everything but the name stands in a fixed place before it or at
the end of the line (`Exchange.ofText?_line`).

Main statement: `log_tells_traffic`.
-/

namespace Magnetometer

/-! ## Listening -/

/-- A transaction as it is heard at the bus, with the reply. -/
structure Contact where
  address : UInt8
  parts : List Part
  reply : Reply
  deriving DecidableEq

def Contact.transaction (c : Contact) : Transaction := ⟨c.address, c.parts, c.reply.fault⟩

/-- A bus at which somebody listens. -/
structure Tapped (β : Type) where
  bus : β
  /-- What was heard, the earliest first. -/
  heard : List Contact

instance {β : Type} [Bus β] : Bus (Tapped β) where
  transact address parts tapped :=
    let answered := Bus.transact address parts tapped.bus
    (answered.1, ⟨answered.2, tapped.heard ++ [⟨address, parts, answered.1⟩]⟩)

/-- What came of an action on a tapped bus came of it on the bus alone, and all its transactions
were heard. -/
structure Outcome.Overheard {β ε α : Type} (out : Outcome (Tapped β) ε α) (tapped : Tapped β)
    (plain : Outcome β ε α) : Prop where
  result : out.result = plain.result
  bus : out.state.bus = plain.state
  journal : out.journal = plain.journal
  heard : ∃ heard, out.state.heard = tapped.heard ++ heard ∧
    heard.map Contact.transaction = plain.journal.transactions

namespace Action

variable {β ε α γ : Type}

/-- That somebody listens makes no difference to the action. -/
def Overheard (p : Action (Tapped β) ε α) (plain : Action β ε α) : Prop :=
  ∀ tapped, (p.run tapped).Overheard tapped (plain.run tapped.bus)

theorem Overheard.pure (a : α) : Overheard (pure a : Action (Tapped β) ε α) (pure a) :=
  fun _ => ⟨rfl, rfl, rfl, [], (List.append_nil _).symm, rfl⟩

theorem Overheard.log (n : Notice) : Overheard (log n : Action (Tapped β) ε Unit) (log n) :=
  fun _ => ⟨rfl, rfl, rfl, [], (List.append_nil _).symm, rfl⟩

theorem Overheard.bind {p : Action (Tapped β) ε α} {plain : Action β ε α}
    {f : α → Action (Tapped β) ε γ} {g : α → Action β ε γ} (hp : p.Overheard plain)
    (hf : ∀ a, (f a).Overheard (g a)) : (p >>= f).Overheard (plain >>= g) := by
  intro tapped
  obtain ⟨hresult, hbus, hjournal, heard, hheard, hmade⟩ := hp tapped
  cases hplain : (plain.run tapped.bus).result with
  | error e =>
    rw [run_bind_error (hresult.trans hplain), run_bind_error hplain]
    exact ⟨rfl, hbus, hjournal, heard, hheard, hmade⟩
  | ok a =>
    rw [run_bind_ok (hresult.trans hplain), run_bind_ok hplain]
    obtain ⟨hresult', hbus', hjournal', heard', hheard', hmade'⟩ := hf a (p.run tapped).state
    rw [hbus] at hresult' hbus' hjournal' hmade'
    refine ⟨hresult', hbus', ?_, heard ++ heard', ?_, ?_⟩
    · dsimp only
      rw [hjournal, hjournal']
    · dsimp only
      rw [hheard', hheard, List.append_assoc]
    · rw [List.map_append, hmade, hmade', Journal.transactions_append]

theorem Overheard.forM {ι : Type} {f : ι → Action (Tapped β) ε PUnit} {g : ι → Action β ε PUnit}
    (h : ∀ i, (f i).Overheard (g i)) : ∀ l : List ι, (l.forM f).Overheard (l.forM g)
  | [] => .pure _
  | i :: l => (h i).bind fun _ => Overheard.forM h l

end Action

namespace Sensor

variable {β ρ : Type} [Bus β] [NamedRegister ρ]

theorem overheard_transact (sensor : Sensor) (parts : List Part) :
    (sensor.transact parts : Action (Tapped β) Error _).Overheard (sensor.transact parts) :=
  fun _ => ⟨rfl, rfl, rfl, _, rfl, rfl⟩

theorem overheard_readRegister (sensor : Sensor) (r : UInt8) :
    (sensor.readRegister r : Action (Tapped β) Error UInt8).Overheard (sensor.readRegister r) :=
  ((sensor.overheard_transact _).bind fun _ => .pure _).bind fun _ => .pure _

theorem overheard_applyOne (sensor : Sensor) (s : Setting ρ) :
    (sensor.applyOne s : Action (Tapped β) Error Unit).Overheard (sensor.applyOne s) := by
  obtain ⟨access, register, value⟩ := s
  cases access with
  | write => exact .bind (.log _) fun _ => (sensor.overheard_transact _).bind fun _ => .pure _
  | read => exact (sensor.overheard_readRegister _).bind fun _ => .log _

theorem overheard_apply (sensor : Sensor) (settings : List (Setting ρ)) :
    (sensor.apply settings : Action (Tapped β) Error Unit).Overheard (sensor.apply settings) :=
  .forM sensor.overheard_applyOne settings

end Sensor

/-! ## Exchanges and their lines -/

/-- A byte that was sent to an address or received from there. -/
structure Exchange where
  access : Access
  address : UInt8
  value : UInt8
  deriving DecidableEq

/-- The exchange that was heard. A byte that is sent counts whatever comes of it, a byte that is
asked for only if the transaction goes through. -/
def Contact.exchange? (c : Contact) : Option Exchange :=
  match c.parts with
  | [.write [r, v]] => some ⟨.write, r, v⟩
  | [.write [r], .read 1] =>
    match c.reply.fault with
    | none => some ⟨.read, r, c.reply.received.flatten.getD 0 0⟩
    | some _ => none
  | _ => none

/-- How a line begins that tells of an access. -/
def Access.heading : Access → List Char
  | .read => "read_reg ".toList
  | .write => "write_reg ".toList

/-- The access of which a line tells. -/
def Access.ofText? (text : List Char) : Option Access :=
  [read, write].find? fun access => access.heading.isPrefixOf text

theorem Access.ofText?_heading (access : Access) (rest : List Char) :
    ofText? (access.heading ++ rest) = some access := by
  cases access <;> rfl

namespace Exchange

/-- The line that tells of an exchange with a register of a name. -/
def line (name : String) (x : Exchange) : List Char :=
  x.access.heading ++ Numeral.padRight 21 name.toList ++
    ("(0x".toList ++ Numeral.upperHexByte x.address ++ ") = 0x".toList ++ Numeral.hexByte x.value)

/-- The notice of an exchange with a register of a name. -/
def notice (name : String) (x : Exchange) : Notice :=
  match x.access with
  | .write => .registerWrite name x.address x.value
  | .read => .registerRead name x.address x.value

theorem text_notice (name : String) (x : Exchange) : (x.notice name).text = x.line name := by
  obtain ⟨access, address, value⟩ := x
  cases access <;> rfl

/-- The exchange of which a line tells, found from how the line begins and from its last thirteen
characters. -/
def ofText? (text : List Char) : Option Exchange := do
  let access ← Access.ofText? text
  let (address, rest) ← Numeral.field? "(0x" 2 (text.drop (text.length - 13))
  let (value, _) ← Numeral.field? ") = 0x" 2 rest
  return ⟨access, ← Numeral.byte? 16 address, ← Numeral.byte? 16 value⟩

theorem ofText?_line (name : String) (x : Exchange) : ofText? (x.line name) = some x := by
  obtain ⟨access, address, value⟩ := x
  have hending : Notice.registerTail address value =
      "(0x".toList ++ (Numeral.upperHexByte address ++
        (") = 0x".toList ++ (Numeral.hexByte value ++ []))) := by
    simp only [Notice.registerTail, List.append_assoc, List.append_nil]
  have hline : line name ⟨access, address, value⟩ =
      access.heading ++ Numeral.padRight 21 name.toList ++ Notice.registerTail address value := rfl
  have haddress := Numeral.byte?_eq_some (Numeral.read?_upperHexByte address)
  have hvalue := Numeral.byte?_eq_some (Numeral.read?_hexByte value)
  rw [ofText?, hline, Numeral.drop_length_sub (Notice.length_registerTail address value),
    List.append_assoc, Access.ofText?_heading, hending]
  simp only [Option.bind_eq_bind, Option.bind_some, haddress, hvalue, Option.pure_def,
    Numeral.field?_append (Numeral.length_upperHexByte address),
    Numeral.field?_append (Numeral.length_hexByte value)]

end Exchange

/-! ## What the log tells -/

namespace Sensor

variable {β ρ : Type} [Bus β] [NamedRegister ρ]

/-- A setting makes one contact, and gives notice of the exchange that is heard, if one is; and one
is heard if the setting goes through. -/
theorem narrates_applyOne (sensor : Sensor) (s : Setting ρ) (tapped : Tapped β) :
    let out := (sensor.applyOne s).run tapped
    ∃ c : Contact, out.state.heard = tapped.heard ++ [c] ∧ c.parts = settingParts s ∧
      out.journal.notices =
        c.exchange?.toList.map (Exchange.notice (NamedRegister.name s.register)) ∧
      (out.result = .ok () → c.exchange?.isSome) := by
  intro out
  obtain ⟨access, register, value⟩ := s
  let address := NamedRegister.address register
  cases access with
  | write =>
    have hrun : out = _ := sensor.run_applyOne_write register value tapped
    rw [run_writeRegister] at hrun
    rw [hrun]
    exact ⟨⟨sensor.address, [.write [address, value]], _⟩, rfl, rfl, rfl, fun _ => rfl⟩
  | read =>
    let answered := Bus.transact sensor.address [.write [address], .read 1] tapped
    have hrun : out = _ := sensor.run_readRegister_log address
      (.registerRead (NamedRegister.name register) address) tapped
    refine ⟨⟨sensor.address, [.write [address], .read 1], answered.1⟩, ?_⟩
    rw [hrun, Contact.exchange?]
    dsimp only
    cases hfault : answered.1.fault with
    | none => exact ⟨rfl, rfl, rfl, fun _ => rfl⟩
    | some fault => exact ⟨rfl, rfl, rfl, nofun⟩

/-- A table of settings makes the contacts of some of them, from the first one on, and gives notice
of the exchanges that are heard. -/
theorem narrates_apply (sensor : Sensor) (settings : List (Setting ρ)) (tapped : Tapped β) :
    let out := (sensor.apply settings).run tapped
    ∃ heard, out.state.heard = tapped.heard ++ heard ∧
      heard.map Contact.parts <+: settings.map settingParts ∧
      out.journal.notices =
        List.zipWith (fun s => Exchange.notice (NamedRegister.name s.register)) settings
          (heard.filterMap Contact.exchange?) := by
  -- On the settings still to be carried out, after whatever was heard before.
  induction settings generalizing tapped with
  | nil => exact ⟨[], (List.append_nil _).symm, List.prefix_refl _, rfl⟩
  | cons s settings ih =>
    intro out
    obtain ⟨c, hheard, hparts, hnotices, hsome⟩ := sensor.narrates_applyOne s tapped
    have hcons := sensor.apply_cons (β := Tapped β) s settings
    cases hresult : ((sensor.applyOne s).run tapped).result with
    | error e =>
      -- If this setting fails nothing more is heard.
      have hrun : out = _ := (congrArg (Action.run · tapped) hcons).trans
        (Action.run_bind_error hresult)
      rw [hrun]
      refine ⟨[c], hheard, ?_, ?_⟩
      · rw [List.map_singleton, hparts]
        exact List.prefix_append [settingParts s] _
      · rw [hnotices, List.filterMap_cons]
        cases c.exchange? <;> simp
    | ok _ =>
      have hrun : out = _ := (congrArg (Action.run · tapped) hcons).trans
        (Action.run_bind_ok hresult)
      obtain ⟨x, hx⟩ := Option.isSome_iff_exists.mp (hsome hresult)
      obtain ⟨heard, hheard', hprefix, hnotices'⟩ := ih ((sensor.applyOne s).run tapped).state
      rw [hrun]
      refine ⟨c :: heard, ?_, ?_, ?_⟩
      · rw [hheard', hheard, List.append_assoc, List.singleton_append]
      · rw [List.map_cons, hparts]
        exact (List.prefix_cons_inj _).mpr hprefix
      · rw [Journal.notices_append, hnotices, hnotices', List.filterMap_cons_some hx, hx]
        rfl

end Sensor

/-- On any bus in any state, the log of a table of settings tells what went over the bus. To listen
there makes no difference; and what is heard are the accesses of settings from the first one on. The
exchanges among them are told, in order, by one line each: it names the access, then the register,
with blanks after a name of less than 21 characters and none after a longer one, and it ends with
the address and the byte. From the lines alone, whatever the names are, the exchanges are found
again. -/
theorem log_tells_traffic {β ρ : Type} [Bus β] [NamedRegister ρ] (sensor : Sensor)
    (settings : List (Setting ρ)) (b : β) :
    let out := (sensor.apply settings).run b
    let tapped := (sensor.apply settings).run (⟨b, []⟩ : Tapped β)
    let heard := tapped.state.heard
    let exchanges := heard.filterMap Contact.exchange?
    let log := out.journal.notices.map Notice.text
    (tapped.result = out.result ∧ tapped.state.bus = out.state ∧ tapped.journal = out.journal ∧
      heard.map Contact.transaction = out.journal.transactions) ∧
    heard.map Contact.parts <+: settings.map (fun s =>
      match s.access with
      | .write => [.write [NamedRegister.address s.register, s.value]]
      | .read => [.write [NamedRegister.address s.register], .read 1]) ∧
    exchanges.length ≤ settings.length ∧
    log = List.zipWith (fun s x =>
      let name := (NamedRegister.name s.register).toList
      (match x.access with | .read => "read_reg ".toList | .write => "write_reg ".toList) ++
        (name ++ List.replicate (21 - name.length) ' ') ++
        ("(0x".toList ++ Numeral.upperHexByte x.address ++ ") = 0x".toList ++
          Numeral.hexByte x.value)) settings exchanges ∧
    log.map Exchange.ofText? = exchanges.map some := by
  intro out tapped heard exchanges log
  obtain ⟨hresult, hbus, hjournal, heard', hheard', hmade⟩ :=
    sensor.overheard_apply settings (⟨b, []⟩ : Tapped β)
  obtain ⟨heard'', hheard'', hprefix, hnotices⟩ :=
    sensor.narrates_apply settings (⟨b, []⟩ : Tapped β)
  obtain rfl : heard = heard' := hheard'
  obtain rfl : heard = heard'' := hheard''
  have hlength : exchanges.length ≤ settings.length := by
    have h := hprefix.length_le
    rw [List.length_map, List.length_map] at h
    exact Nat.le_trans (List.length_filterMap_le _ _) h
  have hlog : log = List.zipWith (fun s x => x.line (NamedRegister.name s.register)) settings
      exchanges := by
    have hnotices' : out.journal.notices = _ := (congrArg Journal.notices hjournal).symm.trans
      hnotices
    simp only [log, hnotices', List.map_zipWith, Exchange.text_notice]
    rfl
  refine ⟨⟨hresult, hbus, hjournal, hmade⟩, hprefix, hlength, hlog, ?_⟩
  -- Every line gives back its exchange, and there is a setting for each of them.
  have hread := congrArg (List.map Exchange.ofText?) hlog
  simp only [List.map_zipWith, Exchange.ofText?_line] at hread
  calc log.map Exchange.ofText?
    _ = List.zipWith (fun _ x => some x) settings exchanges := hread
    _ = ((settings.zip exchanges).map Prod.snd).map some := by
      rw [← List.map_uncurry_zip_eq_zipWith, List.map_map]
      rfl
    _ = exchanges.map some := by rw [List.map_snd_zip hlength]

end Magnetometer
