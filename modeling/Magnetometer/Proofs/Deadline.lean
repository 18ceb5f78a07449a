import Magnetometer.Proofs.Pass

/-!
# Timed passes

A pass may be timed, also more than once, and then counts from the last moment given. `latestTiming`
looks that moment up among calls. The compass keeps it for the running pass only: `DeadlineInv` says
that it knows of no moment while no pass is running, and otherwise of the latest one of the pass.

A tick ends a pass only through a reading, and only when the clock is past the period of the pass.
The comparison is one of naturals, although the compass adds words: the sum that `passOver` forms
stops at the last tick of the clock, which the clock cannot pass (`Compass.passOver_iff`).

Main statement: `ends_only_past_deadline`.
-/

namespace Magnetometer

/-! ## Moments from which a pass is timed -/

/-- The moment from which a cue times the pass, if it does. -/
def Cue.timing? : Cue → Option UInt64
  | .startTimed now => some now
  | _ => none

section

variable {β : Type}

/-- The moment from which a call times the pass, if it does. -/
def Call.timing? (call : Call β) : Option UInt64 :=
  match call.command with
  | .startTimed => some call.now
  | _ => none

/-- The moment from which the latest of some calls that times a pass does so. -/
def latestTiming (calls : List (Call β)) : Option UInt64 := (calls.filterMap Call.timing?).getLast?

theorem latestTiming_append (earlier later : List (Call β)) :
    latestTiming (earlier ++ later) = (latestTiming later).or (latestTiming earlier) := by
  rw [latestTiming, List.filterMap_append, List.getLast?_append]
  rfl

theorem latestTiming_singleton (call : Call β) : latestTiming [call] = call.timing? := by
  cases h : call.timing? with
  | none => rw [latestTiming, List.filterMap_cons_none h]; rfl
  | some t => rw [latestTiming, List.filterMap_cons_some h]; rfl

theorem Call.timing_eq [Board β] (call : Call β) : call.timing? = call.cue.timing? := by
  obtain ⟨now, command, before⟩ := call
  cases command with
  | idleTick =>
    show none = (before.tickCue now).timing?
    rw [Station.tickCue]
    cases before.reading <;> rfl
  | clearCalibration =>
    show none = before.clearCue.timing?
    rw [Station.clearCue]
    cases before.cleared.result <;> rfl
  | _ => rfl

end

/-! ## What a cue does to the moment kept -/

namespace Compass

theorem timedFrom_begun (c : Compass) : c.begun.timedFrom = c.timedFrom := by
  unfold begun
  split <;> rfl

/-- While a pass is running after a cue, the cue can only have timed it anew. -/
theorem timedFrom_of_running {c : Compass} {cue : Cue} (h : (c.respond cue).phase = .calibrating) :
    (c.respond cue).timedFrom = cue.timing?.or c.timedFrom := by
  cases cue with
  | reading sample now =>
    rw [respond] at h ⊢
    split at h
    · cases h
    next hover =>
      rw [if_neg hover]
      exact timedFrom_observe sample c
  | start => exact timedFrom_begun c
  | startTimed now => exact timedFrom_begun (c.timed now)
  | finish => cases h
  | cleared =>
    rw [respond, forget]
    split <;> rfl
  | nothing => rfl
  | inquiry => rfl

/-- No moment is kept beyond the end of a pass. -/
theorem timedFrom_of_idle {c : Compass} {cue : Cue}
    (hc : c.phase ≠ .calibrating → c.timedFrom = none)
    (h : (c.respond cue).phase ≠ .calibrating) : (c.respond cue).timedFrom = none := by
  cases cue with
  | reading sample now =>
    rw [respond] at h ⊢
    split at h
    next hover =>
      rw [if_pos hover]
      rfl
    next hover =>
      rw [if_neg hover, timedFrom_observe]
      exact hc (by rwa [phase_observe] at h)
  | start => exact absurd (phase_begun c) h
  | startTimed now => exact absurd (phase_begun (c.timed now)) h
  | finish => rfl
  | cleared =>
    have htimed : (c.respond .cleared).timedFrom = c.timedFrom := by
      rw [respond, forget]
      split <;> rfl
    rw [htimed]
    exact hc fun hrunning => h (c.phase_forget.mpr hrunning)
  | nothing => exact hc h
  | inquiry => exact hc h

end Compass

/-! ## The invariant -/

/-- A compass knows from when on its running pass is timed, and nothing beyond that. -/
structure DeadlineInv {β : Type} (calls : List (Call β)) (c : Compass) : Prop where
  idle : c.phase ≠ .calibrating → c.timedFrom = none
  running : c.phase = .calibrating → ∃ pass : Pass β, pass.RunsIn calls ∧
    c.timedFrom = latestTiming (pass.opening :: pass.later)

/-- A moment that is kept belongs to the running pass, and no call since has given another. -/
theorem DeadlineInv.latest {β : Type} {calls : List (Call β)} {c : Compass}
    (inv : DeadlineInv calls c) {start : UInt64} (htimed : c.timedFrom = some start) :
    c.phase = .calibrating ∧ latestTiming calls = some start := by
  have hphase : c.phase = .calibrating := by
    by_cases hphase : c.phase = .calibrating
    · exact hphase
    · rw [inv.idle hphase] at htimed
      cases htimed
  obtain ⟨pass, hruns, hpass⟩ := inv.running hphase
  refine ⟨hphase, ?_⟩
  rw [hruns.split, latestTiming_append, ← hpass, htimed]
  rfl

section

variable {β : Type} [Board β]

theorem DeadlineInv.call {calls : List (Call β)} {call : Call β}
    (inv : DeadlineInv calls call.before.compass) :
    DeadlineInv (calls ++ [call]) call.after.compass := by
  rw [call.compass_after]
  constructor
  · exact Compass.timedFrom_of_idle inv.idle
  · intro hafter
    have htimed := Compass.timedFrom_of_running hafter
    rw [← call.timing_eq] at htimed
    by_cases hbefore : call.before.compass.phase = .calibrating
    · -- The moment is that of the call, if it gives one, and else the one kept so far.
      obtain ⟨pass, hruns, hpass⟩ := inv.running hbefore
      refine ⟨pass.through call, hruns.through hbefore, ?_⟩
      show _ = latestTiming ((pass.opening :: pass.later) ++ [call])
      rw [latestTiming_append, latestTiming_singleton, htimed, hpass]
    · -- Nothing is left over from earlier passes.
      obtain ⟨hcue, -⟩ := Compass.opened_of_calibrating hbefore hafter
      refine ⟨⟨calls, call, []⟩, Pass.runsIn_opened calls (begins_of_cue hbefore hcue), ?_⟩
      rw [htimed, inv.idle hbefore, Option.or_none]
      exact (latestTiming_singleton call).symm

theorem DeadlineInv.of_run {settings : CompassSettings} {board : β} {steps : List (Step β)}
    {h : History β} (run : History.run? settings board steps = some h) :
    DeadlineInv h.calls h.station.compass := by
  refine History.compass_induction (P := fun calls _ c => DeadlineInv calls c) run ?_ ?_
  · intro _ offset _ _
    have hphase := Compass.phase_ofOffset_ne settings offset
    exact ⟨fun _ => rfl, fun hrunning => absurd hrunning hphase⟩
  · intro calls _ call inv
    exact inv.call

/-! ## Ticks -/

/-- A reading ends the running pass if the period, counted without bounds, has passed. -/
theorem History.endsPass_of_reading {h : History β} {sample : Sample} (now : UInt64)
    (hread : h.station.reading = some sample) (hphase : h.station.compass.phase = .calibrating) :
    (h.next now .idleTick).EndsPass ↔ ∃ start, h.station.compass.timedFrom = some start ∧
      start.toNat + h.station.compass.period.toNat < now.toNat := by
  have hover : (h.next now .idleTick).EndsPass ↔
      (h.station.compass.observe sample).passOver now = true :=
    Call.endsPass_of_reading rfl hread
  rw [hover, Compass.passOver_iff, Compass.phase_observe, Compass.timedFrom_observe,
    Compass.period_observe]
  exact and_iff_right hphase

/-- A compass keeps a moment only while a pass is running, and then the latest one given during the
pass, which is the latest given at all. A tick that takes in a reading ends the pass exactly if such
a moment is kept and the clock is past it by more than the period, all counted in naturals. A tick
that takes in no reading never ends a pass. -/
theorem ends_only_past_deadline {settings : CompassSettings} {board : β} {steps : List (Step β)}
    {h : History β} (run : History.run? settings board steps = some h) :
    (∀ start, h.station.compass.timedFrom = some start →
      h.station.compass.phase = .calibrating ∧ latestTiming h.calls = some start) ∧
      (h.station.compass.phase = .calibrating → ∃ pass : Pass β, pass.RunsIn h.calls ∧
        h.station.compass.timedFrom = latestTiming (pass.opening :: pass.later)) ∧
      (∀ now sample, h.station.reading = some sample → h.station.compass.phase = .calibrating →
        ((h.next now .idleTick).EndsPass ↔ ∃ start, h.station.compass.timedFrom = some start ∧
          start.toNat + settings.period.toNat < now.toNat)) ∧
      ∀ now, h.station.reading = none → ¬ (h.next now .idleTick).EndsPass := by
  have inv : DeadlineInv h.calls h.station.compass := DeadlineInv.of_run run
  have hperiod : h.station.compass.period = settings.period :=
    congrArg (fun setup => setup.2.2) (History.setup_of_run run)
  refine ⟨fun start htimed => inv.latest htimed, inv.running, ?_, ?_⟩
  · intro now sample hread hphase
    rw [History.endsPass_of_reading now hread hphase, hperiod]
  · intro now hread
    exact Call.not_endsPass_of_no_reading rfl hread

/-- A pass timed anew so late that only the last tick of the clock is past its period. -/
theorem ends_only_past_deadline_near_last_tick :
    let steps : List (Step Bench) :=
      [.perform 3 .startTimed, .perform 18446744073709551600 .startTimed,
        .change (Bench.measure ⟨1, 2, 3⟩)]
    ∃ h : History Bench, History.run? { period := 14 } {} steps = some h ∧
      h.station.compass.timedFrom = some 18446744073709551600 ∧
      latestTiming h.calls = some 18446744073709551600 ∧
      h.station.reading = some ⟨1, 2, 3⟩ ∧
      ¬ (h.next 18446744073709551614 .idleTick).EndsPass ∧
      (h.next 18446744073709551615 .idleTick).EndsPass := by
  intro steps
  have run : History.run? { period := 14 } ({} : Bench) steps = some _ := rfl
  obtain ⟨hlatest, -, hread, -⟩ := ends_only_past_deadline run
  refine ⟨_, run, by decide, (hlatest _ (by decide)).2, by decide, ?_, ?_⟩
  · rw [hread _ ⟨1, 2, 3⟩ (by decide) (by decide)]
    rintro ⟨start, htimed, hpast⟩
    cases htimed
    exact absurd hpast (by decide)
  · rw [hread _ ⟨1, 2, 3⟩ (by decide) (by decide)]
    exact ⟨18446744073709551600, by decide, by decide⟩

end

end Magnetometer
