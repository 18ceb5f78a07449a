import Magnetometer.Proofs.Traffic

/-!
# What an operation comes to

The operations of a compass as equations: what comes of each in terms of what comes of the sensor
operations inside it. These are `stored`, `cleared` and `fetched`. They alone touch the board, and
what they leave in the journal is traffic (`Sensor.silent_of_traffic`).

Main statements: `run_finishCalibration`, `run_clearCalibration`, `run_idleTick` and, for the start
of a compass, `run_boot`.
-/

namespace Magnetometer

/-! ## Ends without a pass -/

/-- Whether the notice is the remark that no pass was running that could be ended. -/
def Notice.isPasslessEnd : Notice → Bool
  | .endedWithoutPass _ => true
  | _ => false

/-- How often it was remarked that no pass was running that could be ended. -/
def Journal.passlessEnds (j : Journal) : Nat := j.notices.countP Notice.isPasslessEnd

theorem Journal.passlessEnds_append (j k : Journal) :
    (j ++ k).passlessEnds = j.passlessEnds + k.passlessEnds := by
  rw [passlessEnds, notices_append, List.countP_append]
  rfl

/-- A sensor publishes nothing and does not speak of passes. -/
theorem Sensor.silent_of_traffic {sensor : Sensor} {writes : UInt8 → Prop} :
    ∀ {j : Journal}, (∀ e ∈ j, sensor.Traffic writes e) → j.events = [] ∧ j.passlessEnds = 0 := by
  intro j
  induction j with
  | nil =>
    intro _
    exact ⟨rfl, rfl⟩
  | cons e j ih =>
    intro h
    have hj := ih fun e he => h e (List.mem_cons_of_mem _ he)
    have hsplit : e :: j = [e] ++ j := rfl
    rw [hsplit, Journal.events_append, Journal.passlessEnds_append, hj.1, hj.2]
    cases h e List.mem_cons_self with
    | store v fault _ => exact ⟨rfl, rfl⟩
    | fetch r n fault => exact ⟨rfl, rfl⟩
    | @report n hn =>
      -- Remarks on passes are warnings, and a sensor gives none.
      cases n with
      | endedWithoutPass id => cases hn
      | _ => exact ⟨rfl, rfl⟩

/-! ## The start of a compass -/

theorem Compass.reports_boot {β : Type} [Bus β] (settings : CompassSettings) :
    (Compass.boot settings : Action β Error Compass).Reports := by
  have hreports := (⟨settings.address⟩ : Sensor).closed_reports (β := β)
  refine .bind (hreports.apply _ fun _ _ => True.intro) fun _ => ?_
  exact .bind (hreports.readAxes _) fun _ => .bind (.log _) fun _ => .pure _

/-- A start applies its settings, then reads the offset, and stops where it fails. -/
theorem Compass.run_boot {β : Type} [Bus β] (settings : CompassSettings) (b : β) :
    let sensor : Sensor := ⟨settings.address⟩
    let woken := (sensor.apply settings.wakeup).run b
    let loaded := sensor.readOffset.run woken.state
    (boot settings).run b =
      match woken.result with
      | .error e => ⟨.error e, woken.state, woken.journal⟩
      | .ok _ =>
        match loaded.result with
        | .error e => ⟨.error e, loaded.state, woken.journal ++ loaded.journal⟩
        | .ok offset =>
          let c := ofOffset settings offset
          ⟨.ok c, loaded.state, woken.journal ++ (loaded.journal ++
            [.notice (.up c.id settings.address c.offset c.phase)])⟩ := by
  intro sensor woken loaded
  unfold boot
  cases hwoken : woken.result with
  | error e => exact Action.run_bind_error hwoken
  | ok _ =>
    rw [Action.run_bind_ok hwoken]
    cases hloaded : loaded.result with
    | error e =>
      rw [Action.run_bind_error hloaded]
    | ok offset =>
      rw [Action.run_bind_ok hloaded]
      rfl

/-- Applying settings and reading an offset is traffic on the bus, and no more. -/
theorem Compass.silent_boot {β : Type} [Bus β] (settings : CompassSettings) (b : β) :
    ((boot settings).run b).journal.events = [] ∧
      ((boot settings).run b).journal.passlessEnds = 0 := by
  have htraffic := (⟨settings.address⟩ : Sensor).closed_entries (β := β) fun _ => True
  have hwoken := Sensor.silent_of_traffic (htraffic.apply settings.wakeup (fun _ _ => True.intro) b)
  have hloaded (b : β) := Sensor.silent_of_traffic (htraffic.readAxes .offset b)
  rw [run_boot]
  dsimp only
  split
  · exact hwoken
  · rw [Sensor.readOffset]
    split
    · rw [Journal.events_append, Journal.passlessEnds_append, hwoken.1, hwoken.2, (hloaded _).1,
        (hloaded _).2]
      exact ⟨rfl, rfl⟩
    · rw [Journal.events_append, Journal.passlessEnds_append, Journal.events_append,
        Journal.passlessEnds_append, hwoken.1, hwoken.2, (hloaded _).1, (hloaded _).2]
      exact ⟨rfl, rfl⟩

/-- A compass that came up has applied its settings and read its offset. -/
theorem Compass.boot_eq_ok {β : Type} [Bus β] {settings : CompassSettings} {b : β} {c : Compass}
    (h : ((boot settings).run b).result = .ok c) :
    ∃ woken loaded offset,
      ((⟨settings.address⟩ : Sensor).apply settings.wakeup).run b = woken ∧
      (⟨settings.address⟩ : Sensor).readOffset.run woken.state = loaded ∧
      loaded.result = .ok offset ∧ c = ofOffset settings offset ∧
      ((boot settings).run b).state = loaded.state ∧
      ((boot settings).run b).journal = woken.journal ++ (loaded.journal ++
        [.notice (.up c.id settings.address c.offset c.phase)]) := by
  obtain ⟨_, _, hload, hstate, hjournal⟩ := Action.run_bind_eq_ok h
  obtain ⟨offset, hoffset, hup, hstate', hjournal'⟩ := Action.run_bind_eq_ok hload
  have hc : ofOffset settings offset = c := Except.ok.inj hup
  subst hc
  refine ⟨_, _, offset, rfl, rfl, hoffset, rfl, hstate.trans hstate', ?_⟩
  exact hjournal.trans (congrArg _ hjournal')

namespace Station

variable {β ε α : Type}

/-! ## Operations without the sensor -/

theorem run_ask (question : Sensor → Action β ε α) (s : Station β) :
    (ask question).run s =
      ⟨((question s.compass.sensor).run s.board).result,
        ⟨s.compass, ((question s.compass.sensor).run s.board).state⟩,
        ((question s.compass.sensor).run s.board).journal⟩ := rfl

/-- The compass is told of what was asked of the sensor only if it succeeded. -/
theorem run_ask_update (question : Sensor → Action β Error Unit) (f : Compass → Compass)
    (s : Station β) :
    (ask question >>= fun _ => update f).run s =
      ⟨((question s.compass.sensor).run s.board).result,
        ⟨match ((question s.compass.sensor).run s.board).result with
          | .ok _ => f s.compass
          | .error _ => s.compass,
          ((question s.compass.sensor).run s.board).state⟩,
        ((question s.compass.sensor).run s.board).journal⟩ := by
  cases h : ((question s.compass.sensor).run s.board).result with
  | error e =>
    have hask : ((ask question).run s).result = .error e := h
    rw [Action.run_bind_error hask, run_ask]
  | ok u =>
    have hask : ((ask question).run s).result = .ok u := h
    rw [Action.run_bind_ok hask, update, Action.run_modify, run_ask, List.append_nil]

theorem run_heading (s : Station β) :
    heading.run s =
      match s.compass.phase with
      | .calibrating => ⟨.error .calibrating, s, []⟩
      | .uncalibrated =>
        ⟨.error .calibrationRequired, s, [.event ⟨s.compass.id, .calibrationRequired⟩]⟩
      | .calibrated => ⟨.ok (Heading.degrees s.compass.sample s.compass.offset), s, []⟩ := by
  cases h : s.compass.phase <;> simp [heading, compass?, Action.run_bind, h]

theorem run_startCalibration (s : Station β) :
    (startCalibration : Action (Station β) ε Unit).run s =
      if s.compass.phase = .calibrating then ⟨.ok (), s, []⟩
      else
        ⟨.ok (), ⟨s.compass.beginPass, s.board⟩,
          [.notice (.started s.compass.id s.compass.sample),
            .event ⟨s.compass.id, .calibrationStart⟩]⟩ := by
  by_cases h : s.compass.phase = .calibrating
  · simp [startCalibration, compass?, Action.run_bind, h]
  · simp [startCalibration, compass?, update, Action.run_bind, h]

theorem run_startTimed (now : UInt64) (s : Station β) :
    (startTimed now : Action (Station β) ε Unit).run s =
      startCalibration.run ⟨s.compass.timed now, s.board⟩ := by
  rw [startTimed, update, Action.run_bind, Action.run_modify]
  rfl

/-! ## Operations on the sensor -/

section

variable [Bus β]

/-- What comes of storing the offset that the envelope gives. -/
def stored (s : Station β) : Outcome β Error Unit :=
  (s.compass.sensor.writeOffset s.compass.envelope.midpoint).run s.board

/-- What comes of clearing the stored offset. -/
def cleared (s : Station β) : Outcome β Error Unit :=
  (s.compass.sensor.apply Setting.clearOffset).run s.board

theorem run_finishCalibration (s : Station β) :
    finishCalibration.run s =
      ⟨s.stored.result, ⟨s.compass.settle, s.stored.state⟩,
        (if s.compass.phase = .calibrating then []
          else [.notice (.endedWithoutPass s.compass.id)]) ++ s.stored.journal ++
        [.notice (s.compass.settle.storedNotice s.stored.result),
          .event ⟨s.compass.id, .calibrationEnd⟩]⟩ := by
  by_cases h : s.compass.phase = .calibrating
  · simp only [finishCalibration, remarkNoPass, compass?, update, run_ask, Action.run_bind,
      Action.run_inspect, Action.run_modify, Action.run_attempt, Action.run_log,
      Action.run_publish, Action.run_ofExcept, Action.run_pure, h, ne_eq, not_true, if_false,
      if_true, List.nil_append]
    simp only [List.append_nil, List.singleton_append]
    rfl
  · simp only [finishCalibration, remarkNoPass, compass?, update, run_ask, Action.run_bind,
      Action.run_inspect, Action.run_modify, Action.run_attempt, Action.run_log,
      Action.run_publish, Action.run_ofExcept, h, ne_eq, not_false_iff, if_false,
      if_true, List.nil_append]
    simp only [List.append_nil, List.cons_append]
    rfl

theorem run_clearCalibration (s : Station β) :
    clearCalibration.run s =
      ⟨s.cleared.result,
        ⟨match s.cleared.result with
          | .ok _ => s.compass.forget
          | .error _ => s.compass,
          s.cleared.state⟩,
        s.cleared.journal⟩ := by
  rw [clearCalibration, run_ask_update]
  rfl

end

section

variable [Board β]

/-- What comes of fetching the latest reading. -/
def fetched (s : Station β) : Outcome β Error Sample := s.compass.sensor.readSample.run s.board

/-- The reading that a tick takes in: the latest one, if it is announced and can be fetched. -/
def reading (s : Station β) : Option Sample :=
  match Board.dataReady s.board with
  | .ok true => s.fetched.result.toOption
  | _ => none

/-- A tick that takes in no reading leaves the compass alone, and one that does adds the reading and
ends the pass if it is over. -/
theorem run_idleTick (now : UInt64) (s : Station β) :
    (idleTick now).run s =
      match Board.dataReady s.board with
      | .error fault => ⟨.error (.dataReady fault), s, []⟩
      | .ok false => ⟨.ok (), s, []⟩
      | .ok true =>
        match s.fetched.result with
        | .error e => ⟨.error e, ⟨s.compass, s.fetched.state⟩, s.fetched.journal⟩
        | .ok sample =>
          if (s.compass.observe sample).passOver now then
            let ended := finishCalibration.run ⟨s.compass.observe sample, s.fetched.state⟩
            ⟨ended.result, ended.state, s.fetched.journal ++ ended.journal⟩
          else ⟨.ok (), ⟨s.compass.observe sample, s.fetched.state⟩, s.fetched.journal⟩ := by
  have hneeded : (tickNeeded.run s : Outcome (Station β) Error Bool) =
      ⟨(Board.dataReady s.board).mapError .dataReady, s, []⟩ := rfl
  rw [idleTick, Action.run_bind, hneeded]
  -- The line cannot be read, is low, or is high.
  rcases Board.dataReady s.board with fault | _ | _
  · rfl
  · rfl
  · have hready : (Except.ok true : Except PinFault Bool).mapError Error.dataReady = .ok true := rfl
    rw [hready]
    simp only [if_true, List.nil_append]
    let fetch : Action (Station β) Error Sample := ask Sensor.readSample
    cases h : s.fetched.result with
    | error e =>
      have hfetch : (fetch.run s).result = .error e := h
      rw [Action.run_bind_error hfetch]
      rfl
    | ok sample =>
      have hfetch : (fetch.run s).result = .ok sample := h
      rw [Action.run_bind_ok hfetch, run_ask]
      simp only [update, compass?, Action.run_bind, Action.run_modify, Action.run_inspect,
        List.nil_append]
      by_cases hover : (s.compass.observe sample).passOver now = true
      · rw [if_pos hover, if_pos hover]
        rfl
      · rw [if_neg hover, if_neg hover, Action.run_pure, List.append_nil]
        rfl

end

end Station

end Magnetometer
