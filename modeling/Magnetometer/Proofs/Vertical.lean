import Magnetometer.Bench
import Magnetometer.Proofs.Device
import Magnetometer.Proofs.Parallel

/-!
# The vertical axis

A heading is found in the horizontal plane. The vertical components of readings and of offsets are
fetched, kept and stored like the others, but nothing comes of them: of two devices that differ in
them alone, the same is reported and published, and the same happens on the bus but for the bytes
that are stored for the vertical offset (`Likeness.vertical`, `Likeness.kept_vertical`).

One thing depends on all three axes. An offset of zero means that there is none, so two offsets
that differ vertically may bring a compass up in different phases (`Compass.ofOffset_horizontalEq`).
From there on the vertical axis is of no account.

Main statement: `vertical_axis_of_no_consequence`.
-/

namespace Magnetometer

/-! ## Equal but for the vertical axis -/

/-- The addresses at which the device keeps the vertical components of the latest reading and of the
offset. -/
def VerticalAddress (address : Nat) : Prop :=
  address = 0x05 ∨ address = 0x06 ∨ address = 0x0D ∨ address = 0x0E

instance (address : Nat) : Decidable (VerticalAddress address) :=
  inferInstanceAs (Decidable (_ ∨ _))

/-- Commands for the sensor that read, byte by byte, where the vertical components are kept. -/
def SensorCommand.ReadsVertical : SensorCommand → Prop
  | .readRegister r => VerticalAddress r.toNat
  | .readSigned r => VerticalAddress r.toNat
  | .readWord r => VerticalAddress r.toNat ∨ VerticalAddress (r.toNat + 1)
  | .readBytes r n => ∃ i < n, VerticalAddress (r.toNat + i)
  | _ => False

/-- The registers of the vertical component of the offset. -/
def VerticalOffset (r : UInt8) : Prop := r = 0x0D ∨ r = 0x0E

theorem VerticalOffset.verticalAddress {r : UInt8} (h : VerticalOffset r) :
    VerticalAddress r.toNat := by
  rcases h with rfl | rfl <;> decide

structure Sample.HorizontalEq (s t : Sample) : Prop where
  x : s.x = t.x
  y : s.y = t.y

structure Envelope.HorizontalEq (e f : Envelope) : Prop where
  min : e.min.HorizontalEq f.min
  max : e.max.HorizontalEq f.max

/-- Nothing but vertical components is different in two compasses. -/
structure Compass.HorizontalEq (c c' : Compass) : Prop where
  id : c.id = c'.id
  sensor : c.sensor = c'.sensor
  period : c.period = c'.period
  phase : c.phase = c'.phase
  timedFrom : c.timedFrom = c'.timedFrom
  offset : c.offset.HorizontalEq c'.offset
  sample : c.sample.HorizontalEq c'.sample
  envelope : c.envelope.HorizontalEq c'.envelope

def RegisterFile.HorizontalEq (f g : RegisterFile) : Prop :=
  ∀ address, ¬ VerticalAddress address → f.get address = g.get address

/-- The same answer; but of samples, which only a sensor is asked for, the horizontal part alone. -/
inductive Answer.HorizontalEq : Answer → Answer → Prop
  | refl (a : Answer) : HorizontalEq a a
  | sample {s t : Sample} : s.HorizontalEq t → HorizontalEq (.sample s) (.sample t)

/-- The same transaction, or the same but for the byte that is stored for the vertical offset. -/
inductive Transaction.HorizontalEq : Transaction → Transaction → Prop
  | refl (t : Transaction) : HorizontalEq t t
  | store {r : UInt8} (address v v' : UInt8) (fault : Option Fault) : VerticalOffset r →
    HorizontalEq ⟨address, [.write [r, v]], fault⟩ ⟨address, [.write [r, v']], fault⟩

/-- Two entries that differ in vertical components only. Of notices no more is said than that they
are given in both places, and equally urgent. -/
inductive Entry.HorizontalEq : Entry → Entry → Prop
  | transaction {t t' : Transaction} : t.HorizontalEq t' →
    HorizontalEq (.transaction t) (.transaction t')
  | notice {n n' : Notice} : n.level = n'.level → HorizontalEq (.notice n) (.notice n')
  | event (e : Event) : HorizontalEq (.event e) (.event e)

/-! ### Readings and offsets -/

theorem Sample.horizontalEq_refl (s : Sample) : s.HorizontalEq s := ⟨rfl, rfl⟩

namespace Envelope.HorizontalEq

variable {e f : Envelope} {s t : Sample}

theorem widen (he : e.HorizontalEq f) (hs : s.HorizontalEq t) :
    (e.widen s).HorizontalEq (f.widen t) where
  min := ⟨congrArg₂ Min.min he.min.x hs.x, congrArg₂ Min.min he.min.y hs.y⟩
  max := ⟨congrArg₂ Max.max he.max.x hs.x, congrArg₂ Max.max he.max.y hs.y⟩

theorem midpoint (he : e.HorizontalEq f) : e.midpoint.HorizontalEq f.midpoint where
  x := congrArg₂ midAxis he.max.x he.min.x
  y := congrArg₂ midAxis he.max.y he.min.y

end Envelope.HorizontalEq

theorem Heading.degrees_of_horizontalEq {s s' o o' : Sample} (hs : s.HorizontalEq s')
    (ho : o.HorizontalEq o') : degrees s o = degrees s' o' := by
  have hhorizontal : horizontal s o = horizontal s' o' := by
    rw [horizontal, horizontal, hs.x, hs.y, ho.x, ho.y]
  rw [degrees, degrees, hhorizontal]

/-! ### Compasses -/

namespace Compass

variable {c c' : Compass}

namespace HorizontalEq

theorem observe (h : c.HorizontalEq c') {s t : Sample} (hs : s.HorizontalEq t) :
    (c.observe s).HorizontalEq (c'.observe t) := by
  unfold Compass.observe
  rw [← h.phase]
  cases c.phase with
  | calibrating => exact { h with phase := rfl, sample := hs, envelope := h.envelope.widen hs }
  | _ => exact { h with phase := rfl, sample := hs }

theorem beginPass (h : c.HorizontalEq c') : c.beginPass.HorizontalEq c'.beginPass :=
  { h with phase := rfl, envelope := ⟨h.sample, h.sample⟩ }

theorem timed (h : c.HorizontalEq c') (now : UInt64) :
    (c.timed now).HorizontalEq (c'.timed now) :=
  { h with timedFrom := rfl }

theorem settle (h : c.HorizontalEq c') : c.settle.HorizontalEq c'.settle :=
  { h with offset := h.envelope.midpoint, phase := rfl, timedFrom := rfl }

theorem forget (h : c.HorizontalEq c') : c.forget.HorizontalEq c'.forget := by
  unfold Compass.forget
  rw [← h.phase]
  cases c.phase with
  | calibrated => exact { h with phase := rfl }
  | _ => exact h

theorem passOver (h : c.HorizontalEq c') (now : UInt64) : c.passOver now = c'.passOver now := by
  rw [Compass.passOver, Compass.passOver, h.phase, h.timedFrom, h.period]

end HorizontalEq

/-- Offsets that differ vertically bring a compass up to the same, unless only one of them is
zero. -/
theorem ofOffset_horizontalEq (settings : CompassSettings) {o o' : Sample} (ho : o.HorizontalEq o')
    (hphase : (ofOffset settings o).phase = (ofOffset settings o').phase) :
    (ofOffset settings o).HorizontalEq (ofOffset settings o') where
  id := rfl
  sensor := rfl
  period := rfl
  phase := hphase
  timedFrom := rfl
  offset := ho
  sample := Sample.horizontalEq_refl _
  envelope := ⟨Sample.horizontalEq_refl _, Sample.horizontalEq_refl _⟩

/-- A vertical offset is one all the same. -/
example : (ofOffset {} ⟨0, 0, 1⟩).phase = .calibrated ∧
    (ofOffset {} .zero).phase = .uncalibrated := by
  decide

end Compass

/-! ### Registers -/

namespace RegisterFile

theorem HorizontalEq.set {f g : RegisterFile} (h : f.HorizontalEq g) {r v v' : UInt8}
    (hv : v = v' ∨ VerticalAddress r.toNat) :
    (f.set r.toNat v).HorizontalEq (g.set r.toNat v') := by
  intro address haddress
  rw [get_set, get_set, h address haddress]
  rcases hv with rfl | hr
  · rfl
  · -- What is stored in a vertical register is not seen elsewhere.
    have hne : r.toNat ≠ address := by
      rintro rfl
      exact haddress hr
    rw [if_neg fun hboth => hne hboth.1, if_neg fun hboth => hne hboth.1]

theorem HorizontalEq.load {f g : RegisterFile} (h : f.HorizontalEq g) {s t : Sample}
    (hs : s.HorizontalEq t) {block : Axis → Half → Register}
    (hblock : ∀ half, VerticalAddress (block .z half).address.toNat) :
    (f.load block s).HorizontalEq (g.load block t) := by
  have hx := (h.set (r := (block .x .high).address) (.inl (congrArg BigEndian.high hs.x))).set
    (r := (block .x .low).address) (.inl (congrArg BigEndian.low hs.x))
  have hy := (hx.set (r := (block .y .high).address) (.inl (congrArg BigEndian.high hs.y))).set
    (r := (block .y .low).address) (.inl (congrArg BigEndian.low hs.y))
  exact (hy.set (.inr (hblock .high))).set (.inr (hblock .low))

theorem HorizontalEq.burst {f g : RegisterFile} (h : f.HorizontalEq g) {start count : Nat}
    (haddress : ∀ i < count, ¬ VerticalAddress (start + i)) :
    f.burst start count = g.burst start count := by
  refine List.map_congr_left fun address hmem => h address ?_
  obtain ⟨i, hi, rfl⟩ := List.mem_range'.mp hmem
  rw [Nat.one_mul]
  exact haddress i hi

end RegisterFile

/-! ## Twins -/

section

open RegisterDevice (registers)

/-- What it takes for a relation to hold of devices that differ in vertical components only, and of
which all else, their failures included, is the same and stays the same. -/
structure VerticalTwins {β : Type} [RegisterDevice β] (R : β → β → Prop) : Prop where
  registers : ∀ {b b'}, R b b' → (registers b).HorizontalEq (registers b')
  dataReady : ∀ {b b'}, R b b' → Board.dataReady b = Board.dataReady b'
  store : ∀ {b b'} (address : UInt8) {r v v' : UInt8}, R b b' → (v = v' ∨ VerticalOffset r) →
    (Bus.transact address [.write [r, v]] b).1.fault =
        (Bus.transact address [.write [r, v']] b').1.fault ∧
      R (Bus.transact address [.write [r, v]] b).2 (Bus.transact address [.write [r, v']] b').2
  fetch : ∀ {b b'} (address r : UInt8) (n : Nat), R b b' →
    (Bus.transact address [.write [r], .read n] b).1.fault =
        (Bus.transact address [.write [r], .read n] b').1.fault ∧
      R (Bus.transact address [.write [r], .read n] b).2
        (Bus.transact address [.write [r], .read n] b').2

namespace VerticalTwins

variable {β ρ : Type} [RegisterDevice β] [NamedRegister ρ] {R : β → β → Prop}

/-! ### What a sensor does on twins -/

theorem writeRegister (hR : VerticalTwins R) (sensor : Sensor) {r v v' : UInt8}
    (hv : v = v' ∨ VerticalOffset r) :
    Action.Beside R Entry.HorizontalEq Eq (sensor.writeRegister r v)
      (sensor.writeRegister r v') := by
  intro b b' hb
  obtain ⟨hfault, hafter⟩ := hR.store sensor.address hb hv
  rw [Sensor.run_writeRegister, Sensor.run_writeRegister, ← hfault]
  refine ⟨agree_refl _, hafter, .cons (.transaction ?_) .nil⟩
  rcases hv with rfl | hr
  · exact .refl _
  · exact .store _ _ _ _ hr

/-- The bytes fetched come from registers that differ in the vertical ones only. -/
theorem readBytes (hR : VerticalTwins R) (sensor : Sensor) (r : UInt8) (n : Nat) :
    Action.Beside R Entry.HorizontalEq
      (fun bytes bytes' => ∃ f g : RegisterFile, f.HorizontalEq g ∧ bytes = f.burst r.toNat n ∧
        bytes' = g.burst r.toNat n)
      (sensor.readBytes r n) (sensor.readBytes r n) := by
  intro b b' hb
  obtain ⟨hfault, hafter⟩ := hR.fetch sensor.address r n hb
  rw [Sensor.run_readBytes, Sensor.run_readBytes, ← hfault]
  refine ⟨?_, hafter, .cons (.transaction (.refl _)) .nil⟩
  cases h : (Bus.transact sensor.address [.write [r], .read n] b).1.fault with
  | some fault => exact .error _
  | none =>
    have h' := hfault.symm.trans h
    exact .ok ⟨_, _, hR.registers hb, RegisterDevice.received_fetch h,
      RegisterDevice.received_fetch h'⟩

theorem readRegister (hR : VerticalTwins R) (sensor : Sensor) (r : UInt8) :
    Action.Beside R Entry.HorizontalEq (fun v v' => ¬ VerticalAddress r.toNat → v = v')
      (sensor.readRegister r) (sensor.readRegister r) := by
  refine .bind (hR.readBytes sensor r 1) ?_
  rintro _ _ ⟨f, g, hfg, rfl, rfl⟩
  exact .pure fun h => hfg r.toNat h

theorem readWord (hR : VerticalTwins R) (sensor : Sensor) (r : UInt8) :
    Action.Beside R Entry.HorizontalEq
      (fun w w' => ¬ VerticalAddress r.toNat → ¬ VerticalAddress (r.toNat + 1) → w = w')
      (sensor.readWord r) (sensor.readWord r) := by
  refine .bind (hR.readBytes sensor r 2) ?_
  rintro _ _ ⟨f, g, hfg, rfl, rfl⟩
  exact .pure fun hhigh hlow => congrArg₂ BigEndian.ofBytes (hfg _ hhigh) (hfg _ hlow)

/-- The words of a block are the same in the plane, if the words that lie there are not vertical
ones. -/
theorem readAxes (hR : VerticalTwins R) (sensor : Sensor) {block : Axis → Half → Register}
    (hx : ¬ VerticalAddress (block .x .high).address.toNat ∧
      ¬ VerticalAddress ((block .x .high).address.toNat + 1))
    (hy : ¬ VerticalAddress (block .y .high).address.toNat ∧
      ¬ VerticalAddress ((block .y .high).address.toNat + 1)) :
    Action.Beside R Entry.HorizontalEq Sample.HorizontalEq (sensor.readAxes block)
      (sensor.readAxes block) := by
  refine .bind (hR.readWord sensor _) fun x x' hword => ?_
  refine .bind (hR.readWord sensor _) fun y y' hword' => ?_
  exact .bind (hR.readWord sensor _) fun z z' _ => .pure ⟨hword hx.1 hx.2, hword' hy.1 hy.2⟩

theorem readSample (hR : VerticalTwins R) (sensor : Sensor) :
    Action.Beside R Entry.HorizontalEq Sample.HorizontalEq sensor.readSample sensor.readSample :=
  hR.readAxes sensor (by decide) (by decide)

theorem readOffset (hR : VerticalTwins R) (sensor : Sensor) :
    Action.Beside R Entry.HorizontalEq Sample.HorizontalEq sensor.readOffset sensor.readOffset :=
  hR.readAxes sensor (by decide) (by decide)

/-- Settings write the same to both, and what they read back is only reported. -/
theorem apply (hR : VerticalTwins R) (sensor : Sensor) (settings : List (Setting ρ)) :
    Action.Beside R Entry.HorizontalEq Eq (sensor.apply settings) (sensor.apply settings) := by
  refine .forM fun s _ => ?_
  unfold Sensor.applyOne
  cases s.access with
  | write => exact .bind (.log (.notice rfl)) fun _ _ _ => hR.writeRegister sensor (.inl rfl)
  | read => exact .bind (hR.readRegister sensor _) fun _ _ _ => .log (.notice rfl)

theorem offsetBytes {o o' : Sample} (ho : o.HorizontalEq o') :
    List.Forall₂ (fun p p' => p.1 = p'.1 ∧ (p.2 = p'.2 ∨ VerticalOffset p.1))
      (Sensor.offsetBytes o) (Sensor.offsetBytes o') := by
  have hx : ∀ half, BigEndian.byte o.x half = BigEndian.byte o'.x half := by
    rw [ho.x]
    exact fun _ => rfl
  have hy : ∀ half, BigEndian.byte o.y half = BigEndian.byte o'.y half := by
    rw [ho.y]
    exact fun _ => rfl
  exact .cons ⟨rfl, .inl (hx .low)⟩ <| .cons ⟨rfl, .inl (hx .high)⟩ <|
    .cons ⟨rfl, .inl (hy .low)⟩ <| .cons ⟨rfl, .inl (hy .high)⟩ <|
    .cons ⟨rfl, .inr (.inr rfl)⟩ <| .cons ⟨rfl, .inr (.inl rfl)⟩ .nil

theorem writeOffset (hR : VerticalTwins R) (sensor : Sensor) {o o' : Sample}
    (ho : o.HorizontalEq o') :
    Action.Beside R Entry.HorizontalEq Eq (sensor.writeOffset o) (sensor.writeOffset o') := by
  refine .tryAll ((offsetBytes ho).imp ?_)
  rintro ⟨r, v⟩ ⟨r', v'⟩ ⟨rfl, hv⟩
  exact hR.writeRegister sensor hv

/-- A command for the sensor comes to the same, unless it reads vertical registers. -/
theorem perform (hR : VerticalTwins R) (sensor : Sensor) {command : SensorCommand}
    (h : ¬ command.ReadsVertical) :
    Action.Beside R Entry.HorizontalEq Answer.HorizontalEq (command.perform sensor)
      (command.perform sensor) := by
  have same : ∀ {α : Type} {p : Action β Error α} (f : α → Answer),
      Action.Beside R Entry.HorizontalEq Eq p p →
        Action.Beside R Entry.HorizontalEq Answer.HorizontalEq (f <$> p) (f <$> p) := by
    intro α p f hp
    refine hp.map ?_
    rintro a _ rfl
    exact .refl _
  have byte : ∀ r : UInt8, ¬ VerticalAddress r.toNat → Action.Beside R Entry.HorizontalEq Eq
      (sensor.readRegister r) (sensor.readRegister r) :=
    fun r hr => (hR.readRegister sensor r).imp fun _ _ h => h hr
  have signed : ∀ r : UInt8, ¬ VerticalAddress r.toNat → Action.Beside R Entry.HorizontalEq Eq
      (sensor.readSigned r) (sensor.readSigned r) :=
    fun r hr => .bind (byte r hr) fun _ _ h => .pure (congrArg UInt8.toInt8 h)
  have mode : Action.Beside R Entry.HorizontalEq Eq sensor.mode sensor.mode :=
    .bind (byte _ (by decide)) fun _ _ h => .pure (congrArg Mode.ofBits h)
  cases command with
  | whoAmI => exact same _ (byte _ (by decide))
  | probe =>
    refine same _ (.bind (byte _ (by decide)) ?_)
    rintro id _ rfl
    split
    · exact .pure rfl
    · exact .fail _
  | init => exact same _ (hR.apply sensor _)
  | standby => exact same _ (.bind (hR.apply sensor _) fun _ _ _ => mode)
  | mode => exact same _ mode
  | readRegister r => exact same _ (byte r h)
  | writeRegister r v => exact same _ (hR.writeRegister sensor (.inl rfl))
  | readWord r =>
    obtain ⟨hhigh, hlow⟩ := not_or.mp h
    exact same _ ((hR.readWord sensor r).imp fun _ _ hw => hw hhigh hlow)
  | readSigned r => exact same _ (signed r h)
  | readBytes r n =>
    refine same _ ((hR.readBytes sensor r n).imp ?_)
    rintro _ _ ⟨f, g, hfg, rfl, rfl⟩
    exact hfg.burst fun i hi haddress => h ⟨i, hi, haddress⟩
  | readSample => exact (hR.readSample sensor).map fun _ _ hs => .sample hs
  | readOffset => exact (hR.readOffset sensor).map fun _ _ hs => .sample hs
  | writeOffset offset => exact same _ (hR.writeOffset sensor (Sample.horizontalEq_refl _))
  | temperature => exact same _ (signed _ (by decide))
  | dataStatus =>
    exact same _ (.bind (byte _ (by decide)) fun _ _ h => .pure (congrArg _ h))
  | apply settings => exact same _ (hR.apply sensor settings)
  | dump list =>
    refine same _ (.forM fun r _ => ?_)
    exact .bind (hR.readRegister sensor _) fun _ _ _ => .log (.notice rfl)

/-! ### The likeness -/

/-- On twins a compass comes up from offsets that differ vertically only, or for neither. -/
theorem boot (hR : VerticalTwins R) (settings : CompassSettings) :
    Action.Beside R Entry.HorizontalEq
      (fun c c' => ∃ o o' : Sample, o.HorizontalEq o' ∧ c = .ofOffset settings o ∧
        c' = .ofOffset settings o')
      (Compass.boot settings) (Compass.boot settings) := by
  refine .bind (hR.apply _ settings.wakeup) fun _ _ _ => ?_
  refine .bind (hR.readOffset _) fun o o' ho => ?_
  exact .bind (.log (.notice rfl)) fun _ _ _ => .pure ⟨o, o', ho, rfl, rfl⟩

end VerticalTwins

variable {β : Type}

/-- Two lives that differ in vertical components only, in which the registers of these are not read
past the compass. -/
def Likeness.vertical (R : β → β → Prop) : Likeness β where
  moments := Eq
  commands command := ∀ c, command = .sensor c → ¬ c.ReadsVertical
  compasses := Compass.HorizontalEq
  boards := R
  samples := Sample.HorizontalEq
  answers := Answer.HorizontalEq
  entries := Entry.HorizontalEq

variable {R : β → β → Prop}

/-- Two steps that differ in vertical components only: the same command at the same time, which
does not read the registers of these, or changes of which nothing else is different. -/
inductive Step.HorizontalEq (R : β → β → Prop) : Step β → Step β → Prop
  | perform (now : UInt64) {command : Command} :
    (∀ c, command = .sensor c → ¬ c.ReadsVertical) →
    HorizontalEq R (.perform now command) (.perform now command)
  | change {f f' : β → β} : (∀ b b', R b b' → R (f b) (f' b')) →
    HorizontalEq R (.change f) (.change f')

theorem Step.HorizontalEq.steps {s s' : Step β} (h : Step.HorizontalEq R s s') :
    (Likeness.vertical R).Steps s s' := by
  cases h with
  | perform now hcommand => exact .perform rfl hcommand
  | change hf => exact .change hf

variable [RegisterDevice β]

theorem Likeness.kept_vertical (hR : VerticalTwins R) : (Likeness.vertical R).Kept where
  id h := h.id
  sensor h := h.sensor
  phase h := h.phase
  degrees h := Heading.degrees_of_horizontalEq h.sample h.offset
  passOver := by
    rintro now _ c c' rfl h
    exact h.passOver now
  observe h hs := h.observe hs
  beginPass h := h.beginPass
  timed := by
    rintro - now _ c c' rfl h
    exact h.timed now
  settle h := h.settle
  forget h := h.forget
  started _ := .notice rfl
  endedWithoutPass _ := .notice rfl
  storedNotice r _ := by
    cases r <;> exact .notice rfl
  event e := .event e
  answer a := .refl a
  dataReady h := hR.dataReady h
  readSample sensor := hR.readSample sensor
  writeOffset sensor _ _ h := hR.writeOffset sensor h.offset
  clearOffset sensor := hR.apply sensor _
  whoAmI sensor := (hR.readRegister sensor _).imp fun _ _ h => h (by decide)
  temperature sensor := .bind (hR.readRegister sensor _) fun _ _ h => .pure (by rw [h (by decide)])
  command sensor command hcommand := hR.perform sensor (hcommand command rfl)

/-- Two calls of which all but vertical components comes out the same. -/
structure Call.HorizontalEq (call call' : Call β) : Prop where
  command : call.command = call'.command
  result : Agree Answer.HorizontalEq call.outcome.result call'.outcome.result
  journal : List.Forall₂ Entry.HorizontalEq call.outcome.journal call'.outcome.journal
  compass : call.after.compass.HorizontalEq call'.after.compass
  registers : (registers call.after.board).HorizontalEq (registers call'.after.board)

/-- Two histories in which everything happens the same way, but for vertical components. -/
structure History.HorizontalEq (h h' : History β) : Prop where
  calls : List.Forall₂ Call.HorizontalEq h.calls h'.calls
  journal : List.Forall₂ Entry.HorizontalEq h.journal h'.journal
  compass : h.station.compass.HorizontalEq h'.station.compass
  registers : (registers h.station.board).HorizontalEq (registers h'.station.board)

variable {settings : CompassSettings} {board board' : β}

/-- A start on twins comes to the same, if it leads to the same phase. -/
theorem VerticalTwins.boot_horizontalEq (hR : VerticalTwins R) (hboard : R board board')
    (hphase : ∀ c c', ((Compass.boot settings).run board).result = .ok c →
      ((Compass.boot settings).run board').result = .ok c' → c.phase = c'.phase) :
    ((Compass.boot settings).run board).Beside R Entry.HorizontalEq Compass.HorizontalEq
      ((Compass.boot settings).run board') := by
  obtain ⟨hresult, hstate, hjournal⟩ := hR.boot settings board board' hboard
  refine ⟨?_, hstate, hjournal⟩
  generalize ((Compass.boot settings).run board).result = r at hresult hphase ⊢
  generalize ((Compass.boot settings).run board').result = r' at hresult hphase ⊢
  cases hresult with
  | error e => exact .error e
  | ok h =>
    obtain ⟨o, o', ho, rfl, rfl⟩ := h
    exact .ok (Compass.ofOffset_horizontalEq settings ho (hphase _ _ rfl rfl))

theorem History.vertical_start?
    (hboot : ((Compass.boot settings).run board).Beside R Entry.HorizontalEq Compass.HorizontalEq
      ((Compass.boot settings).run board')) :
    Option.Rel (Likeness.vertical R).Histories (start? settings board)
      (start? settings board') := by
  obtain ⟨hresult, hstate, hjournal⟩ := hboot
  rw [start?, start?]
  generalize ((Compass.boot settings).run board).result = r at hresult ⊢
  generalize ((Compass.boot settings).run board').result = r' at hresult ⊢
  cases hresult with
  | error e => exact .none
  | ok hcompass => exact .some ⟨.nil, hjournal, hcompass, hstate⟩

theorem Call.horizontalEq (hR : VerticalTwins R) {call call' : Call β}
    (h : (Likeness.vertical R).Calls call call') : call.HorizontalEq call' where
  command := h.command
  result := h.outcome.result
  journal := h.outcome.journal
  compass := h.outcome.state.1
  registers := hR.registers h.outcome.state.2

theorem History.horizontalEq (hR : VerticalTwins R) {h h' : History β}
    (hh : (Likeness.vertical R).Histories h h') : h.HorizontalEq h' where
  calls := hh.calls.imp fun _ _ hcall => Call.horizontalEq hR hcall
  journal := hh.journal
  compass := hh.station.1
  registers := hR.registers hh.station.2

/-- Two lives of a compass on devices that differ in vertical components only, at the start and
after every change, and of which the pins and the failures are the same; the same commands are
carried out at the same times, and none of them reads vertical registers past the compass. If both
come up in the same phase, every call has the same result, every heading and every failure included,
publishes the same events and makes the same transactions but for the bytes of the vertical offset,
and leaves a compass and registers that differ in vertical components only. -/
theorem vertical_axis_of_no_consequence (hR : VerticalTwins R) (hboard : R board board')
    (hphase : ∀ c c', ((Compass.boot settings).run board).result = .ok c →
      ((Compass.boot settings).run board').result = .ok c' → c.phase = c'.phase)
    {steps steps' : List (Step β)} (hsteps : List.Forall₂ (Step.HorizontalEq R) steps steps') :
    ((Compass.boot settings).run board).Beside R Entry.HorizontalEq Compass.HorizontalEq
        ((Compass.boot settings).run board') ∧
      Option.Rel History.HorizontalEq (History.run? settings board steps)
        (History.run? settings board' steps') := by
  have hboot := hR.boot_horizontalEq hboard hphase
  refine ⟨hboot, ?_⟩
  have hrun := (Likeness.kept_vertical hR).run (History.vertical_start? hboot)
    (hsteps.imp fun _ _ hs => hs.steps)
  exact optionRel_imp (fun _ _ hh => History.horizontalEq hR hh) hrun

end

/-! ### Benches -/

namespace Bench

def withRegisters (f : RegisterFile) (b : Bench) : Bench := { b with registers := f }

/-- Two benches that differ in vertical registers only, with the same to go wrong on both. -/
def HorizontalEq (b b' : Bench) : Prop :=
  ∃ f, b.registers.HorizontalEq f ∧ b' = b.withRegisters f

/-- What is permitted does not depend on the registers. -/
theorem permit_withRegisters (address : UInt8) (t : Transfer) (f : RegisterFile) (b : Bench) :
    (b.withRegisters f).permit address t =
      ((b.permit address t).1, (b.permit address t).2.withRegisters f) := by
  obtain ⟨_, own, ready, sticky, pinFails, outage, countdown, readFaults, writeFaults⟩ := b
  cases outage with
  | some fault => rfl
  | none =>
    by_cases haddress : address = own
    · simp only [permit, withRegisters, ne_eq, haddress, not_true_eq_false, if_false]
      rcases countdown with _ | ⟨_ | n, fault⟩ <;> cases t <;> rfl
    · simp only [permit, withRegisters, ne_eq, haddress, not_false_eq_true, if_true]

theorem HorizontalEq.transact {b b' : Bench} (h : b.HorizontalEq b') (address : UInt8)
    {parts parts' : List Part} {t u : Transfer} (ht : Transfer.ofParts? parts = some t)
    (hu : Transfer.ofParts? parts' = some u)
    (hpermit : ∀ b : Bench, b.permit address u = b.permit address t)
    (hcarry : ∀ b b' : Bench, b.HorizontalEq b' →
      HorizontalEq (b.carryOut t).2 (b'.carryOut u).2) :
    (Bus.transact address parts b).1.fault = (Bus.transact address parts' b').1.fault ∧
      HorizontalEq (Bus.transact address parts b).2 (Bus.transact address parts' b').2 := by
  obtain ⟨f, hf, rfl⟩ := h
  have hregisters : (b.permit address t).2.registers = b.registers := by
    obtain ⟨_, hsnd⟩ := b.permit_snd address t
    rw [hsnd]
  rw [← hregisters] at hf
  show (b.transact address parts).1.fault = ((b.withRegisters f).transact address parts').1.fault ∧
    HorizontalEq (b.transact address parts).2 ((b.withRegisters f).transact address parts').2
  simp only [Bench.transact, ht, hu, permit_withRegisters, hpermit]
  generalize b.permit address t = permitted at hf ⊢
  obtain ⟨fault, b₁⟩ := permitted
  cases fault with
  | some fault => exact ⟨rfl, f, hf, rfl⟩
  | none => exact ⟨rfl, hcarry _ _ ⟨f, hf, rfl⟩⟩

theorem verticalTwins_horizontalEq : VerticalTwins HorizontalEq where
  registers := by
    rintro b _ ⟨f, hf, rfl⟩
    exact hf
  dataReady := by
    rintro b _ ⟨f, hf, rfl⟩
    rfl
  store {_ _} address r v v' hb hv := by
    refine hb.transact address (t := .store r v) (u := .store r v') rfl rfl (fun _ => rfl) ?_
    rintro b _ ⟨f, hf, rfl⟩
    exact ⟨f.set r.toNat v', hf.set (hv.imp_right VerticalOffset.verticalAddress), rfl⟩
  fetch {_ _} address r n hb := by
    refine hb.transact address (t := .fetch r n) (u := .fetch r n) rfl rfl (fun _ => rfl) ?_
    rintro b _ ⟨f, hf, rfl⟩
    exact ⟨f, hf, rfl⟩

/-- Readings that differ vertically only are no more different in the registers. -/
theorem HorizontalEq.measure {b b' : Bench} (h : b.HorizontalEq b') {s s' : Sample}
    (hs : s.HorizontalEq s') : HorizontalEq (b.measure s) (b'.measure s') := by
  obtain ⟨f, hf, rfl⟩ := h
  refine ⟨f.load .output s', hf.load hs fun half => ?_, rfl⟩
  cases half <;> decide

/-- So do offsets. -/
theorem HorizontalEq.storeOffset {b b' : Bench} (h : b.HorizontalEq b') {s s' : Sample}
    (hs : s.HorizontalEq s') : HorizontalEq (b.storeOffset s) (b'.storeOffset s') := by
  obtain ⟨f, hf, rfl⟩ := h
  refine ⟨f.load .offset s', hf.load hs fun half => ?_, rfl⟩
  cases half <;> decide

theorem HorizontalEq.setWriteFault {b b' : Bench} (h : b.HorizontalEq b') (register : UInt8)
    (fault : Option Fault) :
    HorizontalEq (b.setWriteFault register fault) (b'.setWriteFault register fault) := by
  obtain ⟨f, hf, rfl⟩ := h
  exact ⟨f, hf, rfl⟩

end Bench

/-- A timed pass that a tick ends while a byte of the vertical offset cannot be stored, with
headings before and after, and the offset read past the compass. -/
theorem vertical_axis_of_no_consequence_through_a_pass :
    let steps : List (Step Bench) :=
      [.change (Bench.measure ⟨100, 20, 5⟩), .perform 0 .idleTick, .perform 0 .heading,
        .perform 1 .startTimed, .change (Bench.measure ⟨-50, 70, 1⟩),
        .change (Bench.setWriteFault 0x0D (some .bus)), .perform 20000 .idleTick,
        .perform 20001 .heading, .perform 20001 (.sensor .readOffset)]
    let steps' : List (Step Bench) :=
      [.change (Bench.measure ⟨100, 20, -30000⟩), .perform 0 .idleTick, .perform 0 .heading,
        .perform 1 .startTimed, .change (Bench.measure ⟨-50, 70, 32767⟩),
        .change (Bench.setWriteFault 0x0D (some .bus)), .perform 20000 .idleTick,
        .perform 20001 .heading, .perform 20001 (.sensor .readOffset)]
    ∃ h h' : History Bench,
      History.run? {} (Bench.storeOffset ⟨3, -4, 5⟩ {}) steps = some h ∧
      History.run? {} (Bench.storeOffset ⟨3, -4, -600⟩ {}) steps' = some h' ∧
      List.Forall₂ (Step.HorizontalEq Bench.HorizontalEq) steps steps' ∧ h.HorizontalEq h' ∧
      h.station.compass.offset = ⟨25, 45, 3⟩ ∧ h'.station.compass.offset = ⟨25, 45, 1383⟩ := by
  intro steps steps'
  have run : History.run? {} (Bench.storeOffset ⟨3, -4, 5⟩ {}) steps = some _ := rfl
  have run' : History.run? {} (Bench.storeOffset ⟨3, -4, -600⟩ {}) steps' = some _ := rfl
  have hblank : Bench.HorizontalEq {} {} := ⟨.blank, fun _ _ => rfl, rfl⟩
  have hboard : Bench.HorizontalEq (Bench.storeOffset ⟨3, -4, 5⟩ {})
      (Bench.storeOffset ⟨3, -4, -600⟩ {}) := hblank.storeOffset ⟨rfl, rfl⟩
  have hphase : ∀ c c',
      ((Compass.boot {}).run (Bench.storeOffset ⟨3, -4, 5⟩ {})).result = .ok c →
      ((Compass.boot {}).run (Bench.storeOffset ⟨3, -4, -600⟩ {})).result = .ok c' →
      c.phase = c'.phase := by
    intro c c' hc hc'
    obtain rfl := Except.ok.inj hc
    obtain rfl := Except.ok.inj hc'
    decide
  have hsteps : List.Forall₂ (Step.HorizontalEq Bench.HorizontalEq) steps steps' :=
    .cons (.change fun _ _ hb => hb.measure ⟨rfl, rfl⟩) <| .cons (.perform _ nofun) <|
    .cons (.perform _ nofun) <| .cons (.perform _ nofun) <|
    .cons (.change fun _ _ hb => hb.measure ⟨rfl, rfl⟩) <|
    .cons (.change fun _ _ hb => hb.setWriteFault _ _) <| .cons (.perform _ nofun) <|
    .cons (.perform _ nofun) <| .cons (.perform _ (by rintro _ ⟨⟩; exact id)) .nil
  obtain ⟨-, hrun⟩ := vertical_axis_of_no_consequence Bench.verticalTwins_horizontalEq hboard hphase
    hsteps
  rw [run, run'] at hrun
  exact ⟨_, _, run, run', hsteps, Option.rel_some_some.mp hrun, by decide, by decide⟩

end Magnetometer
