import Mathlib.Data.List.DropRight
import Magnetometer.Proofs.Pass

/-!
# What a heading is told of the past

A heading is answered out of what the compass has kept of the calls made so far: whether a pass is
running, whether the offset was given up, the latest reading and the latest offset. Passes and
clearings count only as far back as the latest end of a pass (`sinceEnd`); the reading and the
offset may be older. `Recalls` says that the compass has kept all this.

The phase is one of three, and the past is not. It is enough all the same: a clearing that fails or
comes during a pass is of no consequence for headings, and the end of a pass makes up for all
clearings before it.

Main statement: `heading_follows_history`.
-/

namespace Magnetometer

/-! ## What a cue does to phase and offset -/

namespace Compass

/-- At an end of a pass, or without one, the compass settles with what it knows by then. -/
theorem settles_of_end {c : Compass} {cue : Cue}
    (h : cue = .finish ∨ c.phase = .calibrating ∧ (c.respond cue).phase ≠ .calibrating) :
    ∃ known : Compass, c.respond cue = known.settle ∧
      known.envelope = c.envelope.widenBy cue.sample? := by
  rcases h with rfl | ⟨hc, h⟩
  · exact ⟨c, rfl, rfl⟩
  · exact (settles_of_ended hc h).2

theorem phase_forget_of_idle {c : Compass} (h : c.phase ≠ .calibrating) :
    c.forget.phase = .uncalibrated := by
  unfold forget
  split
  · rfl
  next hcalibrated =>
    cases hphase : c.phase with
    | uncalibrated => rfl
    | calibrating => exact absurd hphase h
    | calibrated => exact absurd hphase hcalibrated

/-- A cue at which no pass ends. -/
structure KeepsPass (c : Compass) (cue : Cue) : Prop where
  finish : cue ≠ .finish
  running : c.phase = .calibrating → (c.respond cue).phase = .calibrating

namespace KeepsPass

variable {c : Compass} {cue : Cue}

theorem not_passOver {sample : Sample} {now : UInt64} (h : c.KeepsPass (.reading sample now)) :
    ¬ (c.observe sample).passOver now = true := by
  intro hover
  have hrunning := (passOver_iff.mp hover).1
  rw [phase_observe] at hrunning
  have hafter := h.running hrunning
  rw [respond, if_pos hover] at hafter
  cases hafter

theorem offset (h : c.KeepsPass cue) : (c.respond cue).offset = c.offset := by
  cases cue with
  | reading sample now =>
    rw [respond, if_neg h.not_passOver]
    exact offset_observe sample c
  | start =>
    rw [respond, begun]
    split <;> rfl
  | startTimed now =>
    rw [respond, begun]
    split <;> rfl
  | finish => exact absurd rfl h.finish
  | cleared =>
    rw [respond, forget]
    split <;> rfl
  | nothing => rfl
  | inquiry => rfl

theorem calibrating (h : c.KeepsPass cue) :
    (c.respond cue).phase = .calibrating ↔
      c.phase = .calibrating ∨ cue = .start ∨ ∃ now, cue = .startTimed now := by
  cases cue with
  | reading sample now =>
    rw [respond, if_neg h.not_passOver, phase_observe]
    simp
  | start => exact iff_of_true (phase_begun c) (.inr (.inl rfl))
  | startTimed now => exact iff_of_true (phase_begun (c.timed now)) (.inr (.inr ⟨now, rfl⟩))
  | finish => exact absurd rfl h.finish
  | cleared =>
    rw [respond, phase_forget]
    simp
  | nothing => simp [respond]
  | inquiry => simp [respond]

theorem uncalibrated (h : c.KeepsPass cue) (hidle : (c.respond cue).phase ≠ .calibrating) :
    (c.respond cue).phase = .uncalibrated ↔ c.phase = .uncalibrated ∨ cue = .cleared := by
  cases cue with
  | reading sample now =>
    rw [respond, if_neg h.not_passOver, phase_observe]
    simp
  | start => exact absurd (phase_begun c) hidle
  | startTimed now => exact absurd (phase_begun (c.timed now)) hidle
  | finish => exact absurd rfl h.finish
  | cleared =>
    have hbefore : c.phase ≠ .calibrating := fun hc => hidle (h.running hc)
    exact iff_of_true (phase_forget_of_idle hbefore) (.inr rfl)
  | nothing => simp [respond]
  | inquiry => simp [respond]

end KeepsPass

end Compass

/-! ## Calls by what they do to a calibration -/

section

variable {β : Type} [Board β]

namespace Call

/-- The call asks for a calibration pass. -/
def Starts (call : Call β) : Prop :=
  call.command = .startCalibration ∨ call.command = .startTimed

/-- The call clears the stored offset while no pass is running. -/
def Forgets (call : Call β) : Prop :=
  call.command = .clearCalibration ∧ call.outcome.result = .ok .done ∧
    call.before.compass.phase ≠ .calibrating

instance (call : Call β) : Decidable call.Starts := inferInstanceAs (Decidable (_ ∨ _))

instance (call : Call β) : Decidable call.Forgets := inferInstanceAs (Decidable (_ ∧ _))

/-- The offset that the call finds, whether it can be stored or not. -/
def found? (call : Call β) : Option Sample :=
  if call.Ends then some (call.before.compass.envelope.widenBy call.reading).midpoint else none

theorem cue_eq_finish {call : Call β} :
    call.cue = .finish ↔ call.command = .finishCalibration := by
  refine ⟨fun h => call.command_of_cue _ (by rw [h]; rfl), fun h => ?_⟩
  rw [cue, h]
  rfl

theorem cue_eq_cleared {call : Call β} :
    call.cue = .cleared ↔ call.command = .clearCalibration ∧ call.outcome.result = .ok .done := by
  by_cases hcommand : call.command = .clearCalibration
  · have hcue : call.cue = call.before.clearCue := by rw [cue, hcommand]; rfl
    have hresult : call.outcome.result =
        (call.before.cleared.result.map fun _ => .done).mapError .error := by
      rw [outcome, hcommand, Command.perform, Action.run_mapError, Action.run_map,
        Station.run_clearCalibration]
    rw [hcue, Station.clearCue, hresult, and_iff_right hcommand]
    cases call.before.cleared.result with
    | ok _ => exact iff_of_true rfl rfl
    | error e =>
      refine iff_of_false (fun h => ?_) fun h => ?_
      · cases h
      · cases h
  · refine ⟨fun h => ?_, fun h => absurd h.1 hcommand⟩
    exact absurd (call.command_of_cue _ (by rw [h]; rfl)) hcommand

theorem keepsPass {call : Call β} (h : ¬ call.Ends) :
    call.before.compass.KeepsPass call.cue where
  finish hcue := h (.inl (cue_eq_finish.mp hcue))
  running hbefore := by
    by_contra hafter
    rw [← call.compass_after] at hafter
    exact h (.inr ⟨hbefore, hafter⟩)

theorem settles {call : Call β} (h : call.Ends) :
    ∃ known : Compass, call.after.compass = known.settle ∧
      known.envelope = call.before.compass.envelope.widenBy call.reading := by
  rw [Ends, EndsPass, ← cue_eq_finish] at h
  rw [compass_after] at h ⊢
  rw [reading_eq]
  exact Compass.settles_of_end h

theorem settled {call : Call β} (h : call.Ends) :
    call.after.compass.phase = .calibrated ∧
      call.after.compass.offset = (call.before.compass.envelope.widenBy call.reading).midpoint := by
  obtain ⟨known, hsettled, henvelope⟩ := settles h
  rw [hsettled, ← henvelope]
  exact ⟨rfl, rfl⟩

end Call

/-! ## The past of a heading -/

/-- The calls made since the latest end of a pass. -/
def sinceEnd (calls : List (Call β)) : List (Call β) := calls.rtakeWhile fun call => ¬ call.Ends

/-- A pass was asked for and has not been ended. -/
def PassRuns (calls : List (Call β)) : Prop := ∃ call ∈ sinceEnd calls, call.Starts

/-- There is no offset: it was cleared, and none was found since, or there never was one. -/
def OffsetMissing (loaded : Sample) (calls : List (Call β)) : Prop :=
  (∃ call ∈ sinceEnd calls, call.Forgets) ∨ (∀ call ∈ calls, ¬ call.Ends) ∧ loaded = .zero

instance (calls : List (Call β)) : Decidable (PassRuns calls) :=
  inferInstanceAs (Decidable (∃ call ∈ sinceEnd calls, call.Starts))

instance (loaded : Sample) (calls : List (Call β)) : Decidable (OffsetMissing loaded calls) :=
  inferInstanceAs (Decidable (_ ∨ _))

/-- The latest of the offsets found by some calls, or else the one with which they began. -/
def latestOffset (loaded : Sample) (calls : List (Call β)) : Sample :=
  (calls.filterMap Call.found?).getLastD loaded

theorem exists_sinceEnd_append {P : Call β → Prop} {calls : List (Call β)} {call : Call β} :
    (∃ c ∈ sinceEnd (calls ++ [call]), P c) ↔
      ¬ call.Ends ∧ ((∃ c ∈ sinceEnd calls, P c) ∨ P call) := by
  by_cases hends : call.Ends
  · have hnil : sinceEnd (calls ++ [call]) = [] :=
      List.rtakeWhile_concat_neg _ _ _ (by simpa using hends)
    rw [hnil]
    simp [hends]
  · have hconcat : sinceEnd (calls ++ [call]) = sinceEnd calls ++ [call] :=
      List.rtakeWhile_concat_pos _ _ _ (by simpa using hends)
    rw [hconcat, and_iff_right hends]
    simp [or_and_right, exists_or]

theorem passRuns_append {calls : List (Call β)} {call : Call β} :
    PassRuns (calls ++ [call]) ↔ ¬ call.Ends ∧ (PassRuns calls ∨ call.Starts) :=
  exists_sinceEnd_append

theorem offsetMissing_append {loaded : Sample} {calls : List (Call β)} {call : Call β} :
    OffsetMissing loaded (calls ++ [call]) ↔
      ¬ call.Ends ∧ (OffsetMissing loaded calls ∨ call.Forgets) := by
  rw [OffsetMissing, exists_sinceEnd_append, List.forall_mem_append, List.forall_mem_singleton,
    OffsetMissing]
  by_cases hends : call.Ends
  · simp [hends]
  · simp [hends, or_right_comm]

theorem latestOffset_append (loaded : Sample) (calls : List (Call β)) (call : Call β) :
    latestOffset loaded (calls ++ [call]) = call.found?.getD (latestOffset loaded calls) :=
  getLastD_filterMap_concat Call.found? calls call loaded

/-! ## What the compass keeps of it -/

/-- A compass that came up with an offset has kept of some calls what headings go by. -/
structure Recalls (loaded : Sample) (calls : List (Call β)) (c : Compass) : Prop where
  running : c.phase = .calibrating ↔ PassRuns calls
  missing : c.phase ≠ .calibrating → (c.phase = .uncalibrated ↔ OffsetMissing loaded calls)
  offset : c.offset = latestOffset loaded calls

theorem Recalls.ofOffset (settings : CompassSettings) (offset : Sample) :
    Recalls offset ([] : List (Call β)) (Compass.ofOffset settings offset) where
  running := by
    refine iff_of_false (Compass.phase_ofOffset_ne settings offset) ?_
    rintro ⟨call, hcall, -⟩
    cases hcall
  missing _ := by
    have hphase : (Compass.ofOffset settings offset).phase = .uncalibrated ↔ offset = .zero := by
      rw [Compass.ofOffset, ← Sample.isZero_iff]
      cases offset.isZero <;> simp
    rw [hphase]
    refine ⟨fun hzero => .inr ⟨List.forall_mem_nil _, hzero⟩, ?_⟩
    rintro (⟨call, hcall, -⟩ | ⟨-, hzero⟩)
    · cases hcall
    · exact hzero
  offset := rfl

/-- The invariant through a call: an end of a pass settles everything anew, and any other call adds
to what there is. -/
theorem Recalls.call {loaded : Sample} {calls : List (Call β)} {call : Call β}
    (inv : Recalls loaded calls call.before.compass) :
    Recalls loaded (calls ++ [call]) call.after.compass := by
  by_cases hends : call.Ends
  · obtain ⟨hphase, hoffset⟩ := call.settled hends
    refine ⟨?_, fun _ => ?_, ?_⟩
    · rw [hphase, passRuns_append]
      exact ⟨nofun, fun h => absurd hends h.1⟩
    · rw [hphase, offsetMissing_append]
      exact ⟨nofun, fun h => absurd hends h.1⟩
    · rw [latestOffset_append, Call.found?, if_pos hends]
      exact hoffset
  · have hkeeps := call.keepsPass hends
    have hrunning := hkeeps.calibrating
    have hmissing := hkeeps.uncalibrated
    have hoffset := hkeeps.offset
    rw [← call.compass_after] at hrunning hmissing hoffset
    refine ⟨?_, fun hafter => ?_, ?_⟩
    · rw [hrunning, passRuns_append, and_iff_right hends, inv.running, Call.cue_eq_start,
        Call.Starts]
    · -- Since no pass is running now, none was before.
      have hbefore : call.before.compass.phase ≠ .calibrating :=
        fun h => hafter (hrunning.mpr (.inl h))
      rw [hmissing hafter, offsetMissing_append, and_iff_right hends, inv.missing hbefore,
        Call.cue_eq_cleared, Call.Forgets, ← and_assoc, and_iff_left hbefore]
    · rw [hoffset, latestOffset_append, Call.found?, if_neg hends, inv.offset]
      rfl

theorem Recalls.of_run {settings : CompassSettings} {board : β} {steps : List (Step β)}
    {h : History β} (run : History.run? settings board steps = some h) :
    ∃ booted, History.start? settings board = some booted ∧
      Recalls booted.station.compass.offset h.calls h.station.compass := by
  obtain ⟨booted, hstart, rfl⟩ := Option.map_eq_some_iff.mp run
  refine ⟨booted, hstart, ?_⟩
  refine History.foldl_extend_induction
    (P := fun h => Recalls booted.station.compass.offset h.calls h.station.compass) steps booted
    ?_ ?_
  · intro s _ h inv
    cases s with
    | perform now command =>
      have hbefore : Recalls _ h.calls (h.next now command).before.compass := inv
      exact hbefore.call
    | change f => exact inv
  · obtain ⟨hcalls, -, -, offset, hcompass⟩ := History.start?_silent hstart
    rw [hcalls, hcompass]
    exact Recalls.ofOffset settings offset

/-- The phase tells the three cases of a heading apart. -/
theorem Recalls.phase_eq {loaded : Sample} {calls : List (Call β)} {c : Compass}
    (inv : Recalls loaded calls c) :
    c.phase =
      if PassRuns calls then .calibrating
      else if OffsetMissing loaded calls then .uncalibrated
      else .calibrated := by
  split
  next hruns => exact inv.running.mpr hruns
  next hidle =>
    have hphase : c.phase ≠ .calibrating := fun hrunning => hidle (inv.running.mp hrunning)
    split
    next hmissing => exact (inv.missing hphase).mpr hmissing
    next hpresent =>
      cases hc : c.phase with
      | uncalibrated => exact absurd ((inv.missing hphase).mp hc) hpresent
      | calibrating => exact absurd hc hphase
      | calibrated => rfl

theorem History.outcome_heading (h : History β) (now : UInt64) :
    (h.next now .heading).outcome =
      match h.station.compass.phase with
      | .calibrating => ⟨.error (.unavailable .calibrating), h.station, []⟩
      | .uncalibrated =>
        ⟨.error (.unavailable .calibrationRequired), h.station,
          [.event ⟨h.station.compass.id, .calibrationRequired⟩]⟩
      | .calibrated =>
        ⟨.ok (.degrees (Heading.degrees h.station.compass.sample h.station.compass.offset)),
          h.station, []⟩ := by
  show (Command.heading.perform now).run h.station = _
  rw [Command.perform, Action.run_mapError, Action.run_map, Station.run_heading]
  cases h.station.compass.phase <;> rfl

theorem History.unchanged_by_heading (h : History β) (now : UInt64) :
    (h.next now .heading).after = h.station ∧
      (h.next now .heading).outcome.journal.transactions = [] := by
  rw [Call.after, outcome_heading]
  cases h.station.compass.phase <;> exact ⟨rfl, rfl⟩

/-- Asking for a heading sends nothing and changes nothing. While a pass is running it is refused
and nothing is published. Otherwise it is refused, and that calibration is required published once,
exactly if the offset was cleared outside of a pass since the latest end of one, or if no pass has
ended and the compass came up with the zero offset. In all other cases it is the direction of the
latest reading, corrected by the latest offset found, or else by the one with which the compass came
up. -/
theorem heading_follows_history {settings : CompassSettings} {board : β} {steps : List (Step β)}
    {h : History β} (run : History.run? settings board steps = some h) :
    ∃ booted, History.start? settings board = some booted ∧
      let loaded := booted.station.compass.offset
      (h.station.compass.phase = .calibrating ↔ PassRuns h.calls) ∧
        ∀ now,
          let call := h.next now .heading
          call.after = call.before ∧ call.outcome.journal.transactions = [] ∧
            (PassRuns h.calls →
              call.outcome.result = .error (.unavailable .calibrating) ∧
                call.outcome.journal = []) ∧
            (¬ PassRuns h.calls →
              (call.outcome.result = .error (.unavailable .calibrationRequired) ∧
                  call.outcome.journal = [.event ⟨settings.id, .calibrationRequired⟩] ↔
                OffsetMissing loaded h.calls) ∧
              (¬ OffsetMissing loaded h.calls →
                call.outcome.result = .ok (.degrees
                    (Heading.degrees (latestReading h.calls) (latestOffset loaded h.calls))) ∧
                  call.outcome.journal = [])) := by
  obtain ⟨booted, hstart, inv⟩ := Recalls.of_run run
  have hid : h.station.compass.id = settings.id :=
    congrArg (fun setup => setup.1) (History.setup_of_run run)
  have hsample : h.station.compass.sample = latestReading h.calls := (PassInv.of_run run).sample
  refine ⟨booted, hstart, inv.running, fun now => ?_⟩
  obtain ⟨hafter, hsilent⟩ := h.unchanged_by_heading now
  refine ⟨hafter, hsilent, ?_⟩
  have hout := h.outcome_heading now
  rw [inv.phase_eq, hid, hsample, inv.offset] at hout
  rw [hout]
  refine ⟨fun hruns => ?_, fun hidle => ⟨?_, fun hpresent => ?_⟩⟩
  · rw [if_pos hruns]
    exact ⟨rfl, rfl⟩
  · rw [if_neg hidle]
    by_cases hmissing : OffsetMissing booted.station.compass.offset h.calls
    · rw [if_pos hmissing]
      exact iff_of_true ⟨rfl, rfl⟩ hmissing
    · rw [if_neg hmissing]
      exact iff_of_false (fun hrefused => nomatch hrefused.1) hmissing
  · rw [if_neg hidle, if_neg hpresent]
    exact ⟨rfl, rfl⟩

/-- The stored offset is cleared during a pass, the offset found at its end cannot be stored, and
neither can the stored one be cleared after that. There is a heading, by the offset found. -/
theorem heading_follows_unstored_offset :
    let steps : List (Step Bench) :=
      [.perform 0 .startCalibration, .change (Bench.measure ⟨100, 40, -7⟩), .perform 1 .idleTick,
        .perform 2 .clearCalibration, .change fun b => { b with outage := some .overrun },
        .perform 3 .finishCalibration, .perform 4 .clearCalibration,
        .change fun b => { b.measure ⟨50, 120, 0⟩ with outage := none }, .perform 5 .idleTick]
    ∃ h : History Bench, History.run? {} {} steps = some h ∧
      h.station.board.registers.sampleAt .offset = .zero ∧
      (∃ call ∈ h.calls, call.command = .clearCalibration ∧ call.outcome.result = .ok .done) ∧
      latestOffset .zero h.calls = ⟨50, 20, -3⟩ ∧
      (h.next 6 .heading).outcome.result = .ok (.degrees 270) ∧
      (h.next 6 .heading).outcome.journal = [] := by
  intro steps
  have run : History.run? {} ({} : Bench) steps = some _ := rfl
  have hstart : History.start? {} ({} : Bench) = some _ := rfl
  obtain ⟨booted, hbooted, -, hcalls⟩ := heading_follows_history run
  obtain rfl := Option.some.inj (hstart.symm.trans hbooted)
  obtain ⟨-, -, -, hidle⟩ := hcalls 6
  obtain ⟨hdegrees, hjournal⟩ := (hidle (by decide)).2 (by decide)
  refine ⟨_, run, by decide, by decide, by decide, ?_, hjournal⟩
  rw [hdegrees]
  decide +kernel

end

end Magnetometer
