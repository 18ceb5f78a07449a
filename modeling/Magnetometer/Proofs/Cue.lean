import Magnetometer.Proofs.Operation

/-!
# Cues

For the compass itself only little of a call counts. A `Cue` is all that it takes notice of: that a
reading came in, that a pass is to begin or to end, that the stored offset is gone. What happens on
the board reaches it in no other way.

`Compass.respond`, `Compass.announce` and `Compass.remarks` say what a cue makes of a compass, which
occurrences it publishes and whether it remarks that no pass was running. Main statement:
`cue_explains`, by which every call comes to its cue. Invariants of a compass are proved over cues.
-/

namespace Magnetometer

/-- What a compass takes notice of in a call. -/
inductive Cue
  /-- Nothing that concerns it. -/
  | nothing
  /-- A reading came in at a moment. -/
  | reading (sample : Sample) (now : UInt64)
  /-- A heading is asked for. -/
  | inquiry
  /-- A pass is to begin. -/
  | start
  /-- A pass is to be timed from a moment on. -/
  | startTimed (now : UInt64)
  /-- A pass is to end. -/
  | finish
  /-- The stored offset was cleared. -/
  | cleared

/-- The reading that comes in with a cue. -/
def Cue.sample? : Cue → Option Sample
  | .reading sample _ => some sample
  | _ => none

/-- The command of which a cue comes, if it concerns the compass. -/
def Cue.command? : Cue → Option Command
  | .nothing => none
  | .reading _ _ => some .idleTick
  | .inquiry => some .heading
  | .start => some .startCalibration
  | .startTimed _ => some .startTimed
  | .finish => some .finishCalibration
  | .cleared => some .clearCalibration

namespace Compass

/-- The compass with a pass running. -/
def begun (c : Compass) : Compass := if c.phase = .calibrating then c else c.beginPass

/-- What the compass knows after a cue. -/
def respond (c : Compass) : Cue → Compass
  | .reading sample now =>
    if (c.observe sample).passOver now then (c.observe sample).settle else c.observe sample
  | .start => c.begun
  | .startTimed now => (c.timed now).begun
  | .finish => c.settle
  | .cleared => c.forget
  | .nothing | .inquiry => c

/-- What the compass publishes on a cue. -/
def announce (c : Compass) : Cue → List Occurrence
  | .reading sample now => if (c.observe sample).passOver now then [.calibrationEnd] else []
  | .inquiry => if c.phase = .uncalibrated then [.calibrationRequired] else []
  | .start | .startTimed _ => if c.phase = .calibrating then [] else [.calibrationStart]
  | .finish => [.calibrationEnd]
  | .nothing | .cleared => []

/-- How often the compass remarks on a cue that no pass is running. -/
def remarks (c : Compass) : Cue → Nat
  | .finish => if c.phase = .calibrating then 0 else 1
  | _ => 0

theorem phase_begun (c : Compass) : c.begun.phase = .calibrating := by
  unfold begun
  split
  next h => exact h
  next => rfl

theorem phase_settle_ne (c : Compass) : c.settle.phase ≠ .calibrating := nofun

/-- Clearing the stored offset neither begins nor ends a pass. -/
theorem phase_forget (c : Compass) : c.forget.phase = .calibrating ↔ c.phase = .calibrating := by
  unfold forget
  split
  next h => rw [h]; exact ⟨nofun, nofun⟩
  next => exact Iff.rfl

theorem phase_ofOffset_ne (settings : CompassSettings) (offset : Sample) :
    (ofOffset settings offset).phase ≠ .calibrating := by
  unfold ofOffset
  dsimp only
  split <;> nofun

/-- What a compass was set up with and keeps for good. -/
def setup (c : Compass) : UInt16 × Sensor × UInt64 := (c.id, c.sensor, c.period)

theorem setup_observe (s : Sample) (c : Compass) : (c.observe s).setup = c.setup := by
  unfold observe
  split <;> rfl

theorem setup_respond (c : Compass) (cue : Cue) : (c.respond cue).setup = c.setup := by
  cases cue with
  | reading sample now =>
    rw [respond]
    split
    · exact setup_observe sample c
    · exact setup_observe sample c
  | start =>
    rw [respond, begun]
    split <;> rfl
  | startTimed now =>
    rw [respond, begun]
    split <;> rfl
  | cleared =>
    rw [respond, forget]
    split <;> rfl
  | _ => rfl

theorem sample_respond (c : Compass) (cue : Cue) :
    (c.respond cue).sample = cue.sample?.getD c.sample := by
  cases cue with
  | reading sample now =>
    rw [respond]
    split
    · exact sample_observe sample c
    · exact sample_observe sample c
  | start =>
    rw [respond, begun]
    split <;> rfl
  | startTimed now =>
    rw [respond, begun]
    split <;> rfl
  | cleared =>
    rw [respond, forget]
    split <;> rfl
  | _ => rfl

end Compass

/-- The compass, the events and the remarks that a call leaves are those of a cue. -/
structure Cue.Explains (cue : Cue) (c : Compass) {β ε α : Type}
    (out : Outcome (Station β) ε α) : Prop where
  compass : out.state.compass = c.respond cue
  events : out.journal.events = (c.announce cue).map (Event.mk c.id)
  passlessEnds : out.journal.passlessEnds = c.remarks cue

namespace Station

variable {β ε α : Type}

theorem explains_heading (s : Station β) : Cue.inquiry.Explains s.compass (heading.run s) := by
  rw [run_heading]
  cases h : s.compass.phase with
  | uncalibrated => exact ⟨rfl, by simp only [Compass.announce, h, if_true]; rfl, rfl⟩
  | calibrating => exact ⟨rfl, by simp only [Compass.announce, h, reduceCtorEq, if_false]; rfl, rfl⟩
  | calibrated => exact ⟨rfl, by simp only [Compass.announce, h, reduceCtorEq, if_false]; rfl, rfl⟩

theorem explains_startCalibration (s : Station β) :
    Cue.start.Explains s.compass ((startCalibration : Action (Station β) ε Unit).run s) := by
  rw [run_startCalibration]
  by_cases h : s.compass.phase = .calibrating
  · rw [if_pos h]
    exact ⟨(if_pos h).symm, by simp only [Compass.announce, h, if_true]; rfl, rfl⟩
  · rw [if_neg h]
    exact ⟨(if_neg h).symm, by simp only [Compass.announce, h, if_false]; rfl, rfl⟩

theorem explains_startTimed (now : UInt64) (s : Station β) :
    (Cue.startTimed now).Explains s.compass
      ((startTimed now : Action (Station β) ε Unit).run s) := by
  rw [run_startTimed]
  have h := explains_startCalibration (ε := ε) (⟨s.compass.timed now, s.board⟩ : Station β)
  exact ⟨h.compass, h.events, h.passlessEnds⟩

/-- What is asked of the sensor goes past the compass. -/
theorem explains_ask [Bus β] {question : Sensor → Action β ε α} {writes : UInt8 → Prop}
    (h : ∀ sensor, (question sensor).Entries (sensor.Traffic writes)) (s : Station β) :
    Cue.nothing.Explains s.compass ((ask question).run s) := by
  have hsilent := Sensor.silent_of_traffic (h s.compass.sensor s.board)
  rw [run_ask]
  exact ⟨rfl, hsilent.1, hsilent.2⟩

theorem silent_stored [Bus β] (s : Station β) :
    s.stored.journal.events = [] ∧ s.stored.journal.passlessEnds = 0 :=
  Sensor.silent_of_traffic
    ((s.compass.sensor.closed_entries OffsetAddress).writeOffset _ (fun _ hr => hr) s.board)

theorem silent_cleared [Bus β] (s : Station β) :
    s.cleared.journal.events = [] ∧ s.cleared.journal.passlessEnds = 0 :=
  Sensor.silent_of_traffic
    ((s.compass.sensor.closed_entries fun _ => True).apply _ (fun _ _ => True.intro) s.board)

theorem silent_fetched [Board β] (s : Station β) :
    s.fetched.journal.events = [] ∧ s.fetched.journal.passlessEnds = 0 :=
  Sensor.silent_of_traffic
    ((s.compass.sensor.closed_entries fun _ => False).readAxes .output s.board)

theorem explains_finishCalibration [Bus β] (s : Station β) :
    Cue.finish.Explains s.compass (finishCalibration.run s) := by
  obtain ⟨hevents, hremarks⟩ := s.silent_stored
  have hnotice : Journal.passlessEnds [.notice (s.compass.settle.storedNotice s.stored.result),
      .event ⟨s.compass.id, .calibrationEnd⟩] = 0 := by
    cases s.stored.result <;> rfl
  rw [run_finishCalibration]
  refine ⟨rfl, ?_, ?_⟩
  · rw [Journal.events_append, Journal.events_append, hevents]
    split <;> rfl
  · rw [Journal.passlessEnds_append, Journal.passlessEnds_append, hremarks, hnotice]
    -- What is left is the remark that comes before the storing.
    show _ = if s.compass.phase = .calibrating then 0 else 1
    split <;> rfl

/-- What clearing the stored offset comes to. -/
def clearCue [Bus β] (s : Station β) : Cue :=
  match s.cleared.result with
  | .ok _ => .cleared
  | .error _ => .nothing

theorem explains_clearCalibration [Bus β] (s : Station β) :
    s.clearCue.Explains s.compass (clearCalibration.run s) := by
  obtain ⟨hevents, hremarks⟩ := s.silent_cleared
  rw [run_clearCalibration, clearCue]
  cases s.cleared.result with
  | ok _ => exact ⟨rfl, hevents, hremarks⟩
  | error _ => exact ⟨rfl, hevents, hremarks⟩

/-- What a tick comes to. -/
def tickCue [Board β] (now : UInt64) (s : Station β) : Cue :=
  match s.reading with
  | some sample => .reading sample now
  | none => .nothing

theorem tickCue_of_some [Board β] {s : Station β} {sample : Sample} (now : UInt64)
    (h : s.reading = some sample) : s.tickCue now = .reading sample now := by
  rw [tickCue, h]

theorem tickCue_of_none [Board β] {s : Station β} (now : UInt64) (h : s.reading = none) :
    s.tickCue now = .nothing := by
  rw [tickCue, h]

theorem explains_idleTick [Board β] (now : UInt64) (s : Station β) :
    (s.tickCue now).Explains s.compass ((idleTick now).run s) := by
  obtain ⟨hevents, hremarks⟩ := s.silent_fetched
  rw [run_idleTick]
  rcases hready : Board.dataReady s.board with fault | _ | _
  · have hnone : s.reading = none := by rw [reading, hready]
    rw [tickCue_of_none now hnone]
    exact ⟨rfl, rfl, rfl⟩
  · have hnone : s.reading = none := by rw [reading, hready]
    rw [tickCue_of_none now hnone]
    exact ⟨rfl, rfl, rfl⟩
  · dsimp only
    cases hfetch : s.fetched.result with
    | error e =>
      have hnone : s.reading = none := by
        rw [reading, hready]
        exact congrArg Except.toOption hfetch
      rw [tickCue_of_none now hnone]
      exact ⟨rfl, hevents, hremarks⟩
    | ok sample =>
      have hsome : s.reading = some sample := by
        rw [reading, hready]
        exact congrArg Except.toOption hfetch
      rw [tickCue_of_some now hsome]
      dsimp only
      by_cases hover : (s.compass.observe sample).passOver now = true
      · have hend := explains_finishCalibration
          (⟨s.compass.observe sample, s.fetched.state⟩ : Station β)
        have hrunning : (s.compass.observe sample).phase = .calibrating :=
          (Compass.passOver_iff.mp hover).1
        rw [if_pos hover]
        refine ⟨hend.compass.trans (if_pos hover).symm, ?_, ?_⟩
        · rw [Journal.events_append, hevents, hend.events, Compass.id_observe, Compass.announce,
            Compass.announce, if_pos hover]
          rfl
        · rw [Journal.passlessEnds_append, hremarks, hend.passlessEnds]
          -- A tick ends a pass only if one is running, and so makes no remark.
          show 0 + (if (s.compass.observe sample).phase = .calibrating then 0 else 1) = 0
          rw [if_pos hrunning]
      · rw [if_neg hover]
        refine ⟨(if_neg hover).symm, ?_, hremarks⟩
        rw [hevents, Compass.announce, if_neg hover]
        rfl

end Station

/-! ## The cue of a command -/

section

variable {β : Type}

theorem Cue.Explains.map {cue : Cue} {c : Compass} {ε α γ : Type} {p : Action (Station β) ε α}
    {s : Station β} (h : cue.Explains c (p.run s)) (f : α → γ) :
    cue.Explains c ((f <$> p).run s) := by
  rw [Action.run_map]
  exact ⟨h.compass, h.events, h.passlessEnds⟩

theorem Cue.Explains.mapError {cue : Cue} {c : Compass} {ε δ α : Type}
    {p : Action (Station β) ε α} {s : Station β} (h : cue.Explains c (p.run s)) (f : ε → δ) :
    cue.Explains c ((p.mapError f).run s) :=
  ⟨h.compass, h.events, h.passlessEnds⟩

variable [Board β]

/-- What a command comes to for a compass, in the situation in which it is carried out. -/
def Command.cue (now : UInt64) (s : Station β) : Command → Cue
  | .idleTick => s.tickCue now
  | .heading => .inquiry
  | .startCalibration => .start
  | .startTimed => .startTimed now
  | .finishCalibration => .finish
  | .clearCalibration => s.clearCue
  | .tickNeeded | .whoAmI | .temperature | .sensor _ => .nothing

/-- Every call comes to its cue. -/
theorem cue_explains (now : UInt64) (command : Command) (s : Station β) :
    (command.cue now s).Explains s.compass ((command.perform now).run s) := by
  cases command with
  | idleTick => exact ((Station.explains_idleTick now s).map _).mapError _
  | heading => exact ((Station.explains_heading s).map _).mapError _
  | startCalibration => exact (Station.explains_startCalibration s).map _
  | startTimed => exact (Station.explains_startTimed now s).map _
  | finishCalibration => exact ((Station.explains_finishCalibration s).map _).mapError _
  | clearCalibration => exact ((Station.explains_clearCalibration s).map _).mapError _
  | tickNeeded =>
    have h : Cue.nothing.Explains s.compass (Station.tickNeeded.run s) := ⟨rfl, rfl, rfl⟩
    exact (h.map _).mapError _
  | whoAmI =>
    have h := Station.explains_ask (fun sensor =>
      (sensor.closed_entries fun _ => False).readRegister Register.whoAmI.address) s
    exact (h.map _).mapError _
  | temperature =>
    have h := Station.explains_ask (fun sensor =>
      (sensor.closed_entries fun _ => False).readSigned Register.dieTemperature.address) s
    exact (h.map _).mapError _
  | sensor command =>
    exact (Station.explains_ask (fun sensor => sensor.entries_perform command) s).mapError _

end

end Magnetometer
