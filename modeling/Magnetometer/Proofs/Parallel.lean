import Mathlib.Data.List.Forall2
import Magnetometer.Proofs.History

/-!
# Runs side by side

That something is of no consequence shows in two runs which differ in it: nothing else differs.
`Action.Beside` says so of an action and another in its place. From related states they come to
results, states and journals that are related again, and sequences take this over from their parts.

A `Likeness` says what is to count as alike in two lives of a compass. `Likeness.Kept` lists what is
to be shown of it: one condition for each thing that a compass learns, reports, or has its sensor
do. Everything else is the same for all likenesses and is proved here, `Kept.perform` for a command
and `Kept.run` for whole runs.
-/

namespace Magnetometer

/-- Two results side by side: the same failure, or related values. -/
inductive Agree {ε α : Type} (A : α → α → Prop) : Except ε α → Except ε α → Prop
  | ok {a a' : α} : A a a' → Agree A (.ok a) (.ok a')
  | error (e : ε) : Agree A (.error e) (.error e)

/-- Two outcomes side by side. -/
structure Outcome.Beside {σ ε α : Type} (S : σ → σ → Prop) (J : Entry → Entry → Prop)
    (A : α → α → Prop) (out out' : Outcome σ ε α) : Prop where
  result : Agree A out.result out'.result
  state : S out.state out'.state
  journal : List.Forall₂ J out.journal out'.journal

section

variable {ε δ α γ : Type} {A : α → α → Prop} {B : γ → γ → Prop}

/-- What is related in one way is so in a weaker one. -/
theorem optionRel_imp {R T : α → γ → Prop} (h : ∀ a c, R a c → T a c) {o : Option α}
    {o' : Option γ} (ho : Option.Rel R o o') : Option.Rel T o o' := by
  cases ho with
  | none => exact .none
  | some hac => exact .some (h _ _ hac)

theorem Agree.eq {r r' : Except ε α} (h : Agree Eq r r') : r = r' := by
  cases h with
  | ok h => rw [h]
  | error e => rfl

theorem agree_refl (r : Except ε α) : Agree Eq r r := by
  cases r with
  | ok a => exact .ok rfl
  | error e => exact .error e

theorem Agree.imp {C : α → α → Prop} {r r' : Except ε α} (h : Agree A r r')
    (hC : ∀ a a', A a a' → C a a') : Agree C r r' := by
  cases h with
  | ok h => exact .ok (hC _ _ h)
  | error e => exact .error e

theorem Agree.map {r r' : Except ε α} (h : Agree A r r') {f : α → γ} {f' : α → γ}
    (hf : ∀ a a', A a a' → B (f a) (f' a')) : Agree B (r.map f) (r'.map f') := by
  cases h with
  | ok h => exact .ok (hf _ _ h)
  | error e => exact .error e

theorem Agree.mapError {r r' : Except ε α} (h : Agree A r r') (f : ε → δ) :
    Agree A (r.mapError f) (r'.mapError f) := by
  cases h with
  | ok h => exact .ok h
  | error e => exact .error (f e)

end

namespace Action

variable {σ τ ε δ α γ : Type} {S : σ → σ → Prop} {J : Entry → Entry → Prop} {A : α → α → Prop}
  {B : γ → γ → Prop}

/-- From related states two actions come to related outcomes. -/
def Beside (S : σ → σ → Prop) (J : Entry → Entry → Prop) (A : α → α → Prop)
    (p p' : Action σ ε α) : Prop :=
  ∀ s s', S s s' → (p.run s).Beside S J A (p'.run s')

namespace Beside

theorem refl (p : Action σ ε α) : Beside Eq Eq Eq p p := by
  rintro s _ rfl
  exact ⟨agree_refl _, rfl, List.forall₂_refl _⟩

theorem pure {a a' : α} (h : A a a') : Beside S J A (pure a : Action σ ε α) (pure a') :=
  fun _ _ hs => ⟨.ok h, hs, .nil⟩

theorem fail (e : ε) : Beside S J A (fail e : Action σ ε α) (fail e) :=
  fun _ _ hs => ⟨.error e, hs, .nil⟩

theorem ofExcept {r r' : Except ε α} (h : Agree A r r') :
    Beside S J A (ofExcept r) (ofExcept r') :=
  fun _ _ hs => ⟨h, hs, .nil⟩

theorem log {n n' : Notice} (h : J (.notice n) (.notice n')) :
    Beside S J Eq (log n : Action σ ε Unit) (log n') :=
  fun _ _ hs => ⟨.ok rfl, hs, .cons h .nil⟩

theorem publish {e e' : Event} (h : J (.event e) (.event e')) :
    Beside S J Eq (publish e : Action σ ε Unit) (publish e') :=
  fun _ _ hs => ⟨.ok rfl, hs, .cons h .nil⟩

theorem bind {p p' : Action σ ε α} {f f' : α → Action σ ε γ} (hp : Beside S J A p p')
    (hf : ∀ a a', A a a' → Beside S J B (f a) (f' a')) : Beside S J B (p >>= f) (p' >>= f') := by
  intro s s' hs
  obtain ⟨hresult, hstate, hjournal⟩ := hp s s' hs
  generalize hr : (p.run s).result = r at hresult
  generalize hr' : (p'.run s').result = r' at hresult
  cases hresult with
  | error e =>
    rw [run_bind_error hr, run_bind_error hr']
    exact ⟨.error e, hstate, hjournal⟩
  | ok ha =>
    rw [run_bind_ok hr, run_bind_ok hr']
    obtain ⟨hresult, hstate, hjournal'⟩ := hf _ _ ha _ _ hstate
    exact ⟨hresult, hstate, List.rel_append hjournal hjournal'⟩

theorem map {p p' : Action σ ε α} (hp : Beside S J A p p') {f f' : α → γ}
    (hf : ∀ a a', A a a' → B (f a) (f' a')) : Beside S J B (f <$> p) (f' <$> p') := by
  intro s s' hs
  obtain ⟨hresult, hstate, hjournal⟩ := hp s s' hs
  rw [run_map, run_map]
  exact ⟨hresult.map hf, hstate, hjournal⟩

theorem attempt {p p' : Action σ ε α} (hp : Beside S J A p p') :
    Beside S J (Agree A) (p.attempt : Action σ δ (Except ε α)) p'.attempt := by
  intro s s' hs
  obtain ⟨hresult, hstate, hjournal⟩ := hp s s' hs
  exact ⟨.ok hresult, hstate, hjournal⟩

theorem mapError {p p' : Action σ ε α} (hp : Beside S J A p p') (f : ε → δ) :
    Beside S J A (p.mapError f) (p'.mapError f) := by
  intro s s' hs
  obtain ⟨hresult, hstate, hjournal⟩ := hp s s' hs
  exact ⟨hresult.mapError f, hstate, hjournal⟩

theorem forM {f f' : α → Action σ ε PUnit} :
    ∀ {l : List α}, (∀ a ∈ l, Beside S J Eq (f a) (f' a)) →
      Beside S J Eq (l.forM f) (l.forM f') := by
  intro l
  induction l with
  | nil =>
    intro _
    exact .pure rfl
  | cons a l ih =>
    intro h
    exact .bind (h a List.mem_cons_self) fun _ _ _ => ih fun b hb => h b (List.mem_cons_of_mem _ hb)

/-- What is tried in both cases fails in both or in neither, so the first failure is the same. -/
theorem tryAll {f : α → Action σ ε Unit} {f' : γ → Action σ ε Unit} {l : List α} {l' : List γ}
    (h : List.Forall₂ (fun a a' => Beside S J Eq (f a) (f' a')) l l') :
    Beside S J Eq (Action.tryAll f l) (Action.tryAll f' l') := by
  induction h with
  | nil => exact .pure rfl
  | cons hfirst _ ih =>
    refine .bind hfirst.attempt fun r r' hr => .bind ih.attempt fun o o' ho => ?_
    obtain rfl := hr.eq
    obtain rfl := ho.eq
    exact .ofExcept (agree_refl _)

/-- What comes out related in one way is so in a weaker one. -/
theorem imp {C : α → α → Prop} {p p' : Action σ ε α} (hp : Beside S J A p p')
    (h : ∀ a a', A a a' → C a a') : Beside S J C p p' := by
  intro s s' hs
  obtain ⟨hresult, hstate, hjournal⟩ := hp s s' hs
  exact ⟨hresult.imp h, hstate, hjournal⟩

end Beside

end Action

/-! ## Likenesses -/

/-- What is to count as alike in two lives of a compass. -/
structure Likeness (β : Type) where
  /-- What the clock shows. -/
  moments : UInt64 → UInt64 → Prop
  /-- The commands that are carried out at all. -/
  commands : Command → Prop
  compasses : Compass → Compass → Prop
  boards : β → β → Prop
  samples : Sample → Sample → Prop
  answers : Answer → Answer → Prop
  entries : Entry → Entry → Prop

namespace Likeness

variable {β : Type}

def stations (L : Likeness β) (s s' : Station β) : Prop :=
  L.compasses s.compass s'.compass ∧ L.boards s.board s'.board

/-- What is alike stays alike, and cannot be told apart. -/
structure Kept [Board β] (L : Likeness β) : Prop where
  -- What a compass knows.
  id : ∀ {c c'}, L.compasses c c' → c.id = c'.id
  sensor : ∀ {c c'}, L.compasses c c' → c.sensor = c'.sensor
  phase : ∀ {c c'}, L.compasses c c' → c.phase = c'.phase
  degrees : ∀ {c c'}, L.compasses c c' →
    Heading.degrees c.sample c.offset = Heading.degrees c'.sample c'.offset
  passOver : ∀ {now now' c c'}, L.moments now now' → L.compasses c c' →
    c.passOver now = c'.passOver now'
  -- What it learns.
  observe : ∀ {c c' s s'}, L.compasses c c' → L.samples s s' →
    L.compasses (c.observe s) (c'.observe s')
  beginPass : ∀ {c c'}, L.compasses c c' → L.compasses c.beginPass c'.beginPass
  timed : L.commands .startTimed → ∀ {now now' c c'}, L.moments now now' → L.compasses c c' →
    L.compasses (c.timed now) (c'.timed now')
  settle : ∀ {c c'}, L.compasses c c' → L.compasses c.settle c'.settle
  forget : ∀ {c c'}, L.compasses c c' → L.compasses c.forget c'.forget
  -- What it reports and publishes.
  started : ∀ {c c'}, L.compasses c c' →
    L.entries (.notice (.started c.id c.sample)) (.notice (.started c'.id c'.sample))
  endedWithoutPass : ∀ id,
    L.entries (.notice (.endedWithoutPass id)) (.notice (.endedWithoutPass id))
  storedNotice : ∀ {c c'} (r : Except Error Unit), L.compasses c c' →
    L.entries (.notice (c.storedNotice r)) (.notice (c'.storedNotice r))
  event : ∀ e, L.entries (.event e) (.event e)
  answer : ∀ a, L.answers a a
  -- What it has its sensor do.
  dataReady : ∀ {b b'}, L.boards b b' → Board.dataReady b = Board.dataReady b'
  readSample : ∀ sensor : Sensor,
    Action.Beside L.boards L.entries L.samples sensor.readSample sensor.readSample
  writeOffset : ∀ (sensor : Sensor) {c c'}, L.compasses c c' →
    Action.Beside L.boards L.entries Eq (sensor.writeOffset c.offset) (sensor.writeOffset c'.offset)
  clearOffset : ∀ sensor : Sensor, Action.Beside L.boards L.entries Eq
    (sensor.apply Setting.clearOffset) (sensor.apply Setting.clearOffset)
  whoAmI : ∀ sensor : Sensor, Action.Beside L.boards L.entries Eq sensor.whoAmI sensor.whoAmI
  temperature : ∀ sensor : Sensor,
    Action.Beside L.boards L.entries Eq sensor.temperature sensor.temperature
  command : ∀ (sensor : Sensor) {command : SensorCommand}, L.commands (.sensor command) →
    Action.Beside L.boards L.entries L.answers (command.perform sensor) (command.perform sensor)

namespace Kept

variable {L : Likeness β} {ε α : Type}

/-! ### Operations -/

theorem compass? : Action.Beside L.stations L.entries L.compasses
    (Station.compass? : Action (Station β) ε Compass) Station.compass? :=
  fun _ _ hs => ⟨.ok hs.1, hs, .nil⟩

theorem update {f f' : Compass → Compass}
    (hf : ∀ c c', L.compasses c c' → L.compasses (f c) (f' c')) :
    Action.Beside L.stations L.entries Eq (Station.update f : Action (Station β) ε Unit)
      (Station.update f') :=
  fun _ _ hs => ⟨.ok rfl, ⟨hf _ _ hs.1, hs.2⟩, .nil⟩

variable [Board β]

theorem ask (hL : L.Kept) {A : α → α → Prop} {question question' : Sensor → Action β ε α}
    (h : ∀ sensor, Action.Beside L.boards L.entries A (question sensor) (question' sensor)) :
    Action.Beside L.stations L.entries A (Station.ask question) (Station.ask question') := by
  intro s s' hs
  rw [Station.run_ask, Station.run_ask, ← hL.sensor hs.1]
  obtain ⟨hresult, hstate, hjournal⟩ := h s.compass.sensor s.board s'.board hs.2
  exact ⟨hresult, ⟨hs.1, hstate⟩, hjournal⟩

theorem heading (hL : L.Kept) :
    Action.Beside L.stations L.entries Eq (Station.heading : Action (Station β) Unavailable Nat)
      Station.heading := by
  refine .bind compass? fun c c' hc => ?_
  rw [← hL.phase hc, ← hL.id hc, ← hL.degrees hc]
  cases c.phase with
  | calibrating => exact .fail _
  | uncalibrated => exact .bind (.publish (hL.event _)) fun _ _ _ => .fail _
  | calibrated => exact .pure rfl

theorem startCalibration (hL : L.Kept) :
    Action.Beside L.stations L.entries Eq
      (Station.startCalibration : Action (Station β) ε Unit) Station.startCalibration := by
  refine .bind compass? fun c c' hc => ?_
  rw [← hL.phase hc]
  split
  · refine .bind (update fun _ _ => hL.beginPass) fun _ _ _ => ?_
    refine .bind (.log (hL.started hc)) fun _ _ _ => ?_
    rw [← hL.id hc]
    exact .publish (hL.event _)
  · exact .pure rfl

theorem startTimed (hL : L.Kept) (hcommand : L.commands .startTimed) {now now' : UInt64}
    (hnow : L.moments now now') :
    Action.Beside L.stations L.entries Eq (Station.startTimed now : Action (Station β) ε Unit)
      (Station.startTimed now') :=
  .bind (update fun _ _ => hL.timed hcommand hnow) fun _ _ _ => hL.startCalibration

theorem remarkNoPass (hL : L.Kept) :
    Action.Beside L.stations L.entries Eq
      (Station.remarkNoPass : Action (Station β) ε Unit) Station.remarkNoPass := by
  refine .bind compass? fun c c' hc => ?_
  rw [← hL.phase hc, ← hL.id hc]
  split
  · exact .log (hL.endedWithoutPass _)
  · exact .pure rfl

theorem finishCalibration (hL : L.Kept) :
    Action.Beside L.stations L.entries Eq
      (Station.finishCalibration : Action (Station β) Error Unit) Station.finishCalibration := by
  refine .bind hL.remarkNoPass fun _ _ _ => ?_
  refine .bind (update fun _ _ => hL.settle) fun _ _ _ => ?_
  refine .bind compass? fun c c' hc => ?_
  refine .bind (hL.ask fun sensor => hL.writeOffset sensor hc).attempt fun r r' hr => ?_
  obtain rfl := hr.eq
  refine .bind (.log (hL.storedNotice r hc)) fun _ _ _ => ?_
  rw [← hL.id hc]
  exact .bind (.publish (hL.event _)) fun _ _ _ => .ofExcept hr

theorem clearCalibration (hL : L.Kept) :
    Action.Beside L.stations L.entries Eq
      (Station.clearCalibration : Action (Station β) Error Unit) Station.clearCalibration :=
  .bind (hL.ask hL.clearOffset) fun _ _ _ => update fun _ _ => hL.forget

theorem tickNeeded (hL : L.Kept) :
    Action.Beside L.stations L.entries Eq
      (Station.tickNeeded : Action (Station β) Error Bool) Station.tickNeeded := by
  intro s s' hs
  refine ⟨?_, hs, .nil⟩
  show Agree Eq ((Board.dataReady s.board).mapError _) ((Board.dataReady s'.board).mapError _)
  rw [← hL.dataReady hs.2]
  exact agree_refl _

theorem idleTick (hL : L.Kept) {now now' : UInt64} (hnow : L.moments now now') :
    Action.Beside L.stations L.entries Eq
      (Station.idleTick now : Action (Station β) Error Unit) (Station.idleTick now') := by
  refine .bind hL.tickNeeded fun needed _ hneeded => ?_
  rw [← hneeded]
  split
  · refine .bind (hL.ask hL.readSample) fun sample sample' hsample => ?_
    refine .bind (update fun _ _ hc => hL.observe hc hsample) fun _ _ _ => ?_
    refine .bind compass? fun c c' hc => ?_
    rw [← hL.passOver hnow hc]
    split
    · exact hL.finishCalibration
    · exact .pure rfl
  · exact .pure rfl

/-- The same values make the same answer. -/
theorem answer_map (hL : L.Kept) {p p' : Action (Station β) ε α}
    (hp : Action.Beside L.stations L.entries Eq p p') (f : α → Answer) :
    Action.Beside L.stations L.entries L.answers (f <$> p) (f <$> p') := by
  refine hp.map ?_
  rintro a _ rfl
  exact hL.answer _

/-- A command comes to the same in both lives. -/
theorem perform (hL : L.Kept) {now now' : UInt64} (hnow : L.moments now now') {command : Command}
    (hcommand : L.commands command) :
    Action.Beside L.stations L.entries L.answers (command.perform now) (command.perform now') := by
  cases command with
  | idleTick => exact (hL.answer_map (hL.idleTick hnow) _).mapError _
  | heading => exact (hL.answer_map hL.heading _).mapError _
  | startCalibration => exact hL.answer_map hL.startCalibration _
  | startTimed => exact hL.answer_map (hL.startTimed hcommand hnow) _
  | finishCalibration => exact (hL.answer_map hL.finishCalibration _).mapError _
  | clearCalibration => exact (hL.answer_map hL.clearCalibration _).mapError _
  | tickNeeded => exact (hL.answer_map hL.tickNeeded _).mapError _
  | whoAmI => exact (hL.answer_map (hL.ask hL.whoAmI) _).mapError _
  | temperature => exact (hL.answer_map (hL.ask hL.temperature) _).mapError _
  | sensor command => exact (hL.ask fun sensor => hL.command sensor hcommand).mapError _

end Kept

/-! ## Runs -/

section

variable [Board β]

/-- Two calls alike. -/
structure Calls (L : Likeness β) (call call' : Call β) : Prop where
  command : call.command = call'.command
  outcome : call.outcome.Beside L.stations L.entries L.answers call'.outcome

/-- Two lives alike, up to where they have come. -/
structure Histories (L : Likeness β) (h h' : History β) : Prop where
  calls : List.Forall₂ L.Calls h.calls h'.calls
  journal : List.Forall₂ L.entries h.journal h'.journal
  station : L.stations h.station h'.station

/-- Two steps alike: the same command, or changes from outside that keep boards alike. -/
inductive Steps (L : Likeness β) : Step β → Step β → Prop
  | perform {now now' : UInt64} {command : Command} :
    L.moments now now' → L.commands command → L.Steps (.perform now command) (.perform now' command)
  | change {f f' : β → β} :
    (∀ b b', L.boards b b' → L.boards (f b) (f' b')) → L.Steps (.change f) (.change f')

variable {L : Likeness β}

theorem Kept.extend (hL : L.Kept) {h h' : History β} {s s' : Step β} (hh : L.Histories h h')
    (hs : L.Steps s s') : L.Histories (h.extend s) (h'.extend s') := by
  obtain ⟨hcalls, hjournal, hstation⟩ := hh
  cases hs with
  | perform hnow hcommand =>
    have hout := hL.perform hnow hcommand h.station h'.station hstation
    have hcall : L.Calls (h.next _ _) (h'.next _ _) := ⟨rfl, hout⟩
    exact ⟨List.rel_append hcalls (.cons hcall .nil), List.rel_append hjournal hout.journal,
      hout.state⟩
  | change hf => exact ⟨hcalls, hjournal, hstation.1, hf _ _ hstation.2⟩

/-- Lives that start alike and go on alike are alike throughout. -/
theorem Kept.run (hL : L.Kept) {settings settings' : CompassSettings} {board board' : β}
    {steps steps' : List (Step β)}
    (hstart : Option.Rel L.Histories (History.start? settings board)
      (History.start? settings' board'))
    (hsteps : List.Forall₂ L.Steps steps steps') :
    Option.Rel L.Histories (History.run? settings board steps)
      (History.run? settings' board' steps') := by
  rw [History.run?, History.run?]
  generalize History.start? settings board = started at hstart ⊢
  generalize History.start? settings' board' = started' at hstart ⊢
  cases hstart with
  | none => exact .none
  | @some h h' hh =>
    have hend : L.Histories (steps.foldl History.extend h) (steps'.foldl History.extend h') :=
      List.rel_foldl (R := L.Steps) (fun _ _ hh _ _ hs => hL.extend hh hs) hh hsteps
    exact .some hend

end

end Likeness

end Magnetometer
