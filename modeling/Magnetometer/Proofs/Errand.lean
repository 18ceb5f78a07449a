import Magnetometer.Proofs.History

/-!
# Errands

What a call is for the compass is its cue; what it is for the sensor is its `Errand`. A call fetches
a reading, stores an offset, clears the stored one, does what was asked past the compass, or does
nothing on the board. `errand_explains` is the counterpart of `cue_explains`: transactions, board
and failures of a call are those of its errand.

An errand is composed of what a sensor does, so that a property handed on by composition holds of it
(`Sensor.Closed.errand`). What is said of the board in a call is proved over errands.
-/

namespace Magnetometer

/-- What a call makes the sensor do. -/
inductive Errand
  /-- Nothing is sent. -/
  | rest
  /-- Nothing is sent, since the data-ready line cannot be read. -/
  | unreadable (fault : PinFault)
  | fetch
  /-- The latest reading is fetched, and an offset stored thereafter. -/
  | fetchThenStore (offset : Sample)
  | store (offset : Sample)
  | clear
  | ask (command : SensorCommand)

namespace Errand

/-- The registers into which an errand writes. -/
def Writes : Errand → UInt8 → Prop
  | .fetchThenStore _, r | .store _, r | .clear, r => OffsetAddress r
  | .ask command, r => command.Writes r
  | _, _ => False

/-- The offset that an errand is to store. -/
def stored? : Errand → Option Sample
  | .fetchThenStore offset | .store offset | .ask (.writeOffset offset) => some offset
  | _ => none

/-- Runs an errand. -/
def perform {β : Type} [Bus β] (sensor : Sensor) : Errand → Action β Error Unit
  | .rest => pure ()
  | .unreadable fault => Action.fail (.dataReady fault)
  | .fetch => (fun _ => ()) <$> sensor.readSample
  | .fetchThenStore offset => sensor.readSample >>= fun _ => sensor.writeOffset offset
  | .store offset => sensor.writeOffset offset
  | .clear => sensor.apply Setting.clearOffset
  | .ask command => (fun _ => ()) <$> command.perform sensor

theorem writes_of_stored {errand : Errand} {offset : Sample} (h : errand.stored? = some offset) :
    ∀ r, OffsetAddress r → errand.Writes r := by
  intro r hr
  unfold stored? at h
  split at h
  · exact hr
  · exact hr
  · exact hr
  · cases h

end Errand

/-! ## Properties that composition hands on -/

namespace Sensor

variable {β : Type} [Bus β] {sensor : Sensor} {C : {α : Type} → Action β Error α → Prop}

/-- What sequences take over holds of every errand, provided that it holds of the failures that are
not the bus's and of storing an offset, where the errand may come to that. -/
theorem Sequential.errand {errand : Errand} (h : sensor.Sequential errand.Writes C)
    (hpin : ∀ fault, errand = .unreadable fault →
      C (Action.fail (.dataReady fault) : Action β Error Unit))
    (hprobe : errand = .ask .probe →
      ∀ id, C (Action.fail (.invalidDevice id) : Action β Error UInt8))
    (hstore : ∀ offset, errand.stored? = some offset →
      C (sensor.writeOffset offset : Action β Error Unit)) :
    C (errand.perform sensor) := by
  cases errand with
  | rest => exact h.pure ()
  | unreadable fault => exact hpin fault rfl
  | fetch => exact h.map _ (h.readAxes _)
  | fetchThenStore offset => exact h.bind (h.readAxes _) fun _ => hstore offset rfl
  | store offset => exact hstore offset rfl
  | clear =>
    refine h.apply _ fun r hr => ?_
    obtain ⟨s, hs, -, rfl⟩ := hr
    have hall : ∀ s ∈ Setting.clearOffset, OffsetAddress (NamedRegister.address s.register) := by
      decide
    exact hall s hs
  | ask command =>
    refine h.map _ (Sequential.perform h (fun hcommand => ?_) fun offset hcommand => ?_)
    · exact hprobe (by rw [hcommand])
    · exact hstore offset (by rw [hcommand]; rfl)

theorem Closed.errand {errand : Errand} (h : sensor.Closed errand.Writes C)
    (hpin : ∀ fault, errand = .unreadable fault →
      C (Action.fail (.dataReady fault) : Action β Error Unit))
    (hprobe : errand = .ask .probe →
      ∀ id, C (Action.fail (.invalidDevice id) : Action β Error UInt8)) :
    C (errand.perform sensor) :=
  h.toSequential.errand hpin hprobe fun offset hoffset =>
    h.writeOffset offset (Errand.writes_of_stored hoffset)

/-- What an errand brings into a journal. -/
theorem entries_errand (sensor : Sensor) (errand : Errand) :
    (errand.perform sensor : Action β Error Unit).Entries (sensor.Traffic errand.Writes) :=
  (sensor.closed_entries errand.Writes).errand (fun _ _ => .fail _) fun _ _ => .fail _

end Sensor

/-! ## The errand of a call -/

/-- What comes of a call is on the board what comes of an errand, and the call fails as the errand
does. -/
structure Errand.Explains (errand : Errand) {β ε α : Type} [Bus β] (s : Station β)
    (wrap : Error → ε) (out : Outcome (Station β) ε α) : Prop where
  board : out.state.board = ((errand.perform s.compass.sensor).run s.board).state
  transactions : out.journal.transactions =
    ((errand.perform s.compass.sensor).run s.board).journal.transactions
  failure : ∀ e, out.result = .error (wrap e) ↔
    ((errand.perform s.compass.sensor).run s.board).result = .error e

section

variable {β ε α γ : Type}

theorem error_of_map {f : α → γ} {r : Except ε α} {e : ε} :
    r.map f = .error e ↔ r = .error e := by
  cases r with
  | ok a => exact ⟨nofun, nofun⟩
  | error e' =>
    show (Except.error e' : Except ε γ) = .error e ↔ _
    rw [Except.error.injEq, Except.error.injEq]

theorem error_of_mapError {r : Except Error α} {e : Error} :
    r.mapError Refusal.error = .error (.error e) ↔ r = .error e := by
  cases r with
  | ok a => exact ⟨nofun, nofun⟩
  | error e' =>
    show Except.error (Refusal.error e') = .error (.error e) ↔ _
    rw [Except.error.injEq, Refusal.error.injEq, Except.error.injEq]

variable [Bus β] {errand : Errand} {s : Station β}

theorem Errand.Explains.map {wrap : Error → ε} {p : Action (Station β) ε α}
    (h : errand.Explains s wrap (p.run s)) (f : α → γ) :
    errand.Explains s wrap ((f <$> p).run s) := by
  rw [Action.run_map]
  refine ⟨h.board, h.transactions, fun e => ?_⟩
  rw [error_of_map]
  exact h.failure e

theorem Errand.Explains.mapError {p : Action (Station β) Error α}
    (h : errand.Explains s id (p.run s)) :
    errand.Explains s Refusal.error ((p.mapError .error).run s) := by
  rw [Action.run_mapError]
  refine ⟨h.board, h.transactions, fun e => ?_⟩
  rw [error_of_mapError]
  exact h.failure e

/-- What is sent by no one and fails for no reason of the sensor. -/
theorem Errand.explains_rest {wrap : Error → ε} {out : Outcome (Station β) ε α}
    (hboard : out.state.board = s.board) (htransactions : out.journal.transactions = [])
    (hresult : ∀ e, out.result ≠ .error (wrap e)) : Errand.rest.Explains s wrap out :=
  ⟨hboard, htransactions, fun e => ⟨fun he => absurd he (hresult e), nofun⟩⟩

namespace Station

theorem runs_ask {question : Sensor → Action β Error α} (s : Station β)
    (herrand : errand.perform s.compass.sensor = (fun _ => ()) <$> question s.compass.sensor) :
    errand.Explains s id ((ask question).run s) := by
  have hrun : (errand.perform s.compass.sensor).run s.board = _ :=
    (congrArg (·.run s.board) herrand).trans (Action.run_map _ _ _)
  refine ⟨?_, ?_, fun e => ?_⟩
  · rw [hrun]
    rfl
  · rw [hrun]
    rfl
  · rw [hrun, error_of_map]
    exact Iff.rfl

theorem runs_finishCalibration (s : Station β) :
    (Errand.store s.compass.envelope.midpoint).Explains s id (finishCalibration.run s) := by
  rw [run_finishCalibration]
  refine ⟨rfl, ?_, fun e => Iff.rfl⟩
  -- Before and after the storing there are notices and events only.
  rw [Journal.transactions_append, Journal.transactions_append]
  have hbefore : Journal.transactions (if s.compass.phase = .calibrating then []
      else [.notice (.endedWithoutPass s.compass.id)]) = [] := by
    split <;> rfl
  rw [hbefore]
  exact List.append_nil _

theorem runs_clearCalibration (s : Station β) :
    Errand.clear.Explains s id (clearCalibration.run s) := by
  rw [run_clearCalibration]
  exact ⟨rfl, rfl, fun e => Iff.rfl⟩

end Station

end

section

variable {β : Type} [Board β]

namespace Station

/-- What a tick makes the sensor do. -/
def tickErrand (now : UInt64) (s : Station β) : Errand :=
  match Board.dataReady s.board with
  | .error fault => .unreadable fault
  | .ok false => .rest
  | .ok true =>
    match s.fetched.result with
    | .error _ => .fetch
    | .ok sample =>
      let c := s.compass.observe sample
      if c.passOver now then .fetchThenStore c.envelope.midpoint else .fetch

theorem tickErrand_of_some {s : Station β} {sample : Sample} (now : UInt64)
    (h : s.reading = some sample) :
    s.tickErrand now =
      if (s.compass.observe sample).passOver now then
        .fetchThenStore (s.compass.observe sample).envelope.midpoint
      else .fetch := by
  rw [reading] at h
  split at h
  next hready =>
    rw [tickErrand, hready]
    dsimp only
    cases hread : s.fetched.result with
    | error e =>
      rw [hread] at h
      cases h
    | ok sample' =>
      rw [hread] at h
      cases h
      rfl
  · cases h

theorem stored_tickErrand_of_none {s : Station β} (now : UInt64) (h : s.reading = none) :
    (s.tickErrand now).stored? = none := by
  rw [tickErrand]
  rcases hready : Board.dataReady s.board with fault | _ | _
  · rfl
  · rfl
  · rw [reading, hready] at h
    dsimp only at h ⊢
    cases hread : s.fetched.result with
    | error e => rfl
    | ok sample =>
      rw [hread] at h
      cases h

/-- What asking for the line makes the sensor do, which is nothing in any case. -/
def lineErrand (s : Station β) : Errand :=
  match Board.dataReady s.board with
  | .error fault => .unreadable fault
  | .ok _ => .rest

/-- Nothing is sent unless the line is high, and then at least the reading is fetched. -/
theorem tickErrand_cases (now : UInt64) (s : Station β) :
    (∃ fault, Board.dataReady s.board = .error fault ∧ s.tickErrand now = .unreadable fault) ∨
      (Board.dataReady s.board = .ok false ∧ s.tickErrand now = .rest) ∨
      (Board.dataReady s.board = .ok true ∧
        (s.tickErrand now = .fetch ∨ ∃ offset, s.tickErrand now = .fetchThenStore offset)) := by
  rw [tickErrand]
  rcases Board.dataReady s.board with fault | _ | _
  · exact .inl ⟨fault, rfl, rfl⟩
  · exact .inr (.inl ⟨rfl, rfl⟩)
  · refine .inr (.inr ⟨rfl, ?_⟩)
    dsimp only
    split
    · exact .inl rfl
    · split
      · exact .inr ⟨_, rfl⟩
      · exact .inl rfl

theorem lineErrand_cases (s : Station β) :
    (∃ fault, Board.dataReady s.board = .error fault ∧ s.lineErrand = .unreadable fault) ∨
      (∃ level, Board.dataReady s.board = .ok level ∧ s.lineErrand = .rest) := by
  rw [lineErrand]
  cases Board.dataReady s.board with
  | error fault => exact .inl ⟨fault, rfl, rfl⟩
  | ok level => exact .inr ⟨level, rfl, rfl⟩

theorem runs_idleTick (now : UInt64) (s : Station β) :
    (s.tickErrand now).Explains s id ((idleTick now).run s) := by
  rw [run_idleTick, tickErrand]
  rcases hready : Board.dataReady s.board with fault | _ | _
  · exact ⟨rfl, rfl, fun e => Iff.rfl⟩
  · exact Errand.explains_rest rfl rfl nofun
  · dsimp only
    have hfetch : ((Errand.fetch).perform s.compass.sensor).run s.board =
        ⟨s.fetched.result.map fun _ => (), s.fetched.state, s.fetched.journal⟩ :=
      Action.run_map _ _ _
    cases hread : s.fetched.result with
    | error e =>
      dsimp only
      refine ⟨?_, ?_, fun e' => ?_⟩
      · rw [hfetch]
      · rw [hfetch]
      · rw [hfetch, hread]
        exact Iff.rfl
    | ok sample =>
      dsimp only
      by_cases hover : (s.compass.observe sample).passOver now = true
      · rw [if_pos hover, if_pos hover]
        have hstore := runs_finishCalibration
          (⟨s.compass.observe sample, s.fetched.state⟩ : Station β)
        have hsensor : (s.compass.observe sample).sensor = s.compass.sensor :=
          congrArg (fun setup => setup.2.1) (Compass.setup_observe sample s.compass)
        -- The bus is where fetching has left it when the offset is stored.
        have hrun : ((Errand.fetchThenStore (s.compass.observe sample).envelope.midpoint).perform
            s.compass.sensor).run s.board = _ := Action.run_bind_ok hread
        obtain ⟨hboard, htransactions, hfailure⟩ := hstore
        rw [hsensor] at hboard htransactions hfailure
        refine ⟨?_, ?_, fun e => ?_⟩
        · rw [hrun]
          exact hboard
        · rw [hrun, Journal.transactions_append, Journal.transactions_append, htransactions]
          rfl
        · rw [hrun]
          exact hfailure e
      · rw [if_neg hover, if_neg hover]
        refine ⟨?_, ?_, fun e' => ?_⟩
        · rw [hfetch]
        · rw [hfetch]
        · rw [hfetch, hread]
          exact ⟨nofun, nofun⟩

theorem runs_tickNeeded (s : Station β) :
    s.lineErrand.Explains s id ((tickNeeded : Action (Station β) Error Bool).run s) := by
  have hrun : (tickNeeded.run s : Outcome (Station β) Error Bool) =
      ⟨(Board.dataReady s.board).mapError .dataReady, s, []⟩ := rfl
  rw [hrun, lineErrand]
  cases Board.dataReady s.board with
  | error fault =>
    refine ⟨rfl, rfl, fun e => ?_⟩
    show (Except.error (Error.dataReady fault) : Except Error Bool) = .error e ↔
      (Except.error (Error.dataReady fault) : Except Error Unit) = .error e
    rw [Except.error.injEq, Except.error.injEq]
  | ok level => exact Errand.explains_rest rfl rfl nofun

end Station

/-- What a command makes the sensor do, in the situation in which it is carried out. -/
def Command.errand (now : UInt64) (s : Station β) : Command → Errand
  | .idleTick => s.tickErrand now
  | .heading | .startCalibration | .startTimed => .rest
  | .finishCalibration => .store s.compass.envelope.midpoint
  | .clearCalibration => .clear
  | .tickNeeded => s.lineErrand
  | .whoAmI => .ask .whoAmI
  | .temperature => .ask .temperature
  | .sensor command => .ask command

/-- Every call runs its errand. -/
theorem errand_explains (now : UInt64) (command : Command) (s : Station β) :
    (command.errand now s).Explains s Refusal.error ((command.perform now).run s) := by
  cases command with
  | idleTick => exact ((Station.runs_idleTick now s).map _).mapError
  | heading =>
    rw [Command.perform, Action.run_mapError, Action.run_map, Station.run_heading]
    cases s.compass.phase <;> exact Errand.explains_rest rfl rfl nofun
  | startCalibration =>
    rw [Command.perform, Action.run_map, Station.run_startCalibration]
    split <;> exact Errand.explains_rest rfl rfl nofun
  | startTimed =>
    rw [Command.perform, Action.run_map, Station.run_startTimed, Station.run_startCalibration]
    split <;> exact Errand.explains_rest rfl rfl nofun
  | finishCalibration => exact ((Station.runs_finishCalibration s).map _).mapError
  | clearCalibration => exact ((Station.runs_clearCalibration s).map _).mapError
  | tickNeeded => exact ((Station.runs_tickNeeded s).map _).mapError
  | whoAmI =>
    have h : (Errand.ask .whoAmI).Explains s id ((Station.ask Sensor.whoAmI).run s) :=
      Station.runs_ask s (Functor.map_map _ _ _)
    exact (h.map _).mapError
  | temperature =>
    have h : (Errand.ask .temperature).Explains s id ((Station.ask Sensor.temperature).run s) :=
      Station.runs_ask s (Functor.map_map _ _ _)
    exact (h.map _).mapError
  | sensor command =>
    have h : (Errand.ask command).Explains s id ((Station.ask command.perform).run s) :=
      Station.runs_ask s rfl
    exact h.mapError

/-! ## Calls -/

namespace Call

/-- What the call makes the sensor do. -/
def errand (call : Call β) : Errand := call.command.errand call.now call.before

theorem runs_errand (call : Call β) :
    call.errand.Explains call.before Refusal.error call.outcome :=
  errand_explains call.now call.command call.before

variable {call : Call β}

/-- A tick stores an offset exactly if it ends a pass, and then the one that the compass knows
afterwards. -/
theorem errand_of_tick (hcommand : call.command = .idleTick) :
    call.errand.stored? = if call.EndsPass then some call.after.compass.offset else none := by
  have herrand : call.errand = call.before.tickErrand call.now := by
    rw [errand, hcommand]
    rfl
  rw [herrand]
  cases hread : call.before.reading with
  | none =>
    rw [if_neg (not_endsPass_of_no_reading hcommand hread)]
    exact Station.stored_tickErrand_of_none _ hread
  | some sample =>
    have hends := endsPass_of_reading hcommand hread
    rw [Station.tickErrand_of_some _ hread, call.compass_after, call.cue_of_tick hcommand,
      Station.tickCue_of_some _ hread, Compass.respond]
    by_cases hover : (call.before.compass.observe sample).passOver call.now = true
    · rw [if_pos hover, if_pos hover, if_pos (hends.mpr hover)]
      rfl
    · rw [if_neg hover, if_neg fun h => hover (hends.mp h)]
      rfl

/-- The line is read by a tick, and by asking for it. -/
theorem errand_eq_unreadable {fault : PinFault} :
    call.errand = .unreadable fault ↔
      (call.command = .idleTick ∨ call.command = .tickNeeded) ∧
        Board.dataReady call.before.board = .error fault := by
  cases hcommand : call.command with
  | idleTick =>
    rw [errand, hcommand, and_iff_right (.inl rfl), Command.errand]
    rcases call.before.tickErrand_cases call.now with
      ⟨fault', hready, h⟩ | ⟨hready, h⟩ | ⟨hready, h | ⟨offset, h⟩⟩ <;> rw [hready, h]
    · rw [Errand.unreadable.injEq, Except.error.injEq]
    · exact ⟨nofun, nofun⟩
    · exact ⟨nofun, nofun⟩
    · exact ⟨nofun, nofun⟩
  | tickNeeded =>
    rw [errand, hcommand, and_iff_right (.inr rfl), Command.errand]
    rcases call.before.lineErrand_cases with ⟨fault', hready, h⟩ | ⟨level, hready, h⟩ <;>
      rw [hready, h]
    · rw [Errand.unreadable.injEq, Except.error.injEq]
    · exact ⟨nofun, nofun⟩
  | _ =>
    rw [errand, hcommand]
    refine ⟨nofun, ?_⟩
    rintro ⟨hcommand | hcommand, -⟩ <;> cases hcommand

theorem errand_eq_probe : call.errand = .ask .probe ↔ call.command = .sensor .probe := by
  cases hcommand : call.command with
  | idleTick =>
    rw [errand, hcommand, Command.errand]
    rcases call.before.tickErrand_cases call.now with
      ⟨_, -, h⟩ | ⟨-, h⟩ | ⟨-, h | ⟨_, h⟩⟩ <;> rw [h] <;> exact ⟨nofun, nofun⟩
  | tickNeeded =>
    rw [errand, hcommand, Command.errand]
    rcases call.before.lineErrand_cases with ⟨_, -, h⟩ | ⟨_, -, h⟩ <;> rw [h] <;>
      exact ⟨nofun, nofun⟩
  | sensor command =>
    rw [errand, hcommand, Command.sensor.injEq]
    exact ⟨fun h => Errand.ask.inj h, fun h => congrArg _ h⟩
  | _ =>
    rw [errand, hcommand]
    exact ⟨nofun, nofun⟩

/-- Besides a command for the sensor, an offset is stored at the end of a pass only, and it is the
one that the compass knows afterwards. -/
theorem stored_of_errand {offset : Sample} (h : call.errand.stored? = some offset) :
    call.command = .sensor (.writeOffset offset) ∨
      offset = call.after.compass.offset ∧
        (call.command = .finishCalibration ∨ call.command = .idleTick ∧ call.EndsPass) := by
  cases hcommand : call.command with
  | idleTick =>
    rw [errand_of_tick hcommand] at h
    split at h
    next hends => exact .inr ⟨(Option.some.inj h).symm, .inr ⟨rfl, hends⟩⟩
    next => cases h
  | finishCalibration =>
    refine .inr ⟨?_, .inl rfl⟩
    rw [errand, hcommand] at h
    rw [call.compass_after, cue, hcommand]
    exact (Option.some.inj h).symm
  | sensor command =>
    rw [errand, hcommand] at h
    cases command with
    | writeOffset offset' =>
      rw [Option.some.inj h]
      exact .inl rfl
    | _ => cases h
  | tickNeeded =>
    rw [errand, hcommand, Command.errand] at h
    rcases call.before.lineErrand_cases with ⟨_, -, hline⟩ | ⟨_, -, hline⟩ <;> rw [hline] at h <;>
      cases h
  | _ =>
    rw [errand, hcommand] at h
    cases h

end Call

end

end Magnetometer
