import Mathlib.Order.Bounds.Basic
import Magnetometer.Bench
import Magnetometer.Proofs.History

/-!
# Calibration passes

A pass begins with a call that starts a calibration while none is running, and runs through all
calls since. `Pass.RunsIn` finds it in a list of calls; what it `collected` is the sample from which
it started out and the readings taken in since then.

The compass keeps only an envelope of all that. `PassInv` says that the envelope has lost nothing
that counts: on each axis its bounds are the least and the greatest of the values collected.

Main statement: `envelope_spans_collected`, for the pass that is running and for the offset that
comes of it at its end.
-/

namespace Magnetometer

/-! ## Envelopes of samples -/

namespace Envelope

/-- On each axis the bounds are the least and the greatest of the values of some samples. -/
def Spans (e : Envelope) (samples : List Sample) : Prop :=
  ∀ axis, IsLeast {v | ∃ s ∈ samples, s.along axis = v} (e.min.along axis) ∧
    IsGreatest {v | ∃ s ∈ samples, s.along axis = v} (e.max.along axis)

/-- On each axis the offset is half the sum of the least and the greatest of the values of some
samples, cut off toward zero. -/
def Centres (offset : Sample) (samples : List Sample) : Prop :=
  ∀ axis, ∃ lo hi, IsLeast {v | ∃ s ∈ samples, s.along axis = v} lo ∧
    IsGreatest {v | ∃ s ∈ samples, s.along axis = v} hi ∧
    (offset.along axis).toInt = (lo.toInt + hi.toInt).tdiv 2

theorem Spans.centres {e : Envelope} {samples : List Sample} (h : e.Spans samples) :
    Centres e.midpoint samples := by
  intro axis
  refine ⟨e.min.along axis, e.max.along axis, (h axis).1, (h axis).2, ?_⟩
  rw [along_midpoint, toInt_midAxis, Int.add_comm]

theorem spans_seeded (s : Sample) : (seeded s).Spans [s] := by
  intro axis
  have hmem : ∃ t ∈ [s], t.along axis = s.along axis := ⟨s, List.mem_singleton_self s, rfl⟩
  have honly : ∀ v, (∃ t ∈ [s], t.along axis = v) → v = s.along axis := by
    rintro v ⟨t, ht, rfl⟩
    rw [List.mem_singleton.mp ht]
  refine ⟨⟨hmem, fun v hv => ?_⟩, ⟨hmem, fun v hv => ?_⟩⟩
  · rw [honly v hv]
    exact Int16.le_refl _
  · rw [honly v hv]
    exact Int16.le_refl _

theorem Spans.widen {e : Envelope} {samples : List Sample} (h : e.Spans samples) (s : Sample) :
    (e.widen s).Spans (samples ++ [s]) := by
  intro axis
  obtain ⟨⟨hmin, hle⟩, ⟨hmax, hge⟩⟩ := h axis
  have hold : ∀ v, (∃ t ∈ samples, t.along axis = v) → ∃ t ∈ samples ++ [s], t.along axis = v := by
    rintro v ⟨t, ht, rfl⟩
    exact ⟨t, List.mem_append_left _ ht, rfl⟩
  have hnew : ∃ t ∈ samples ++ [s], t.along axis = s.along axis :=
    ⟨s, List.mem_append_right _ (List.mem_singleton_self s), rfl⟩
  rw [min_along_widen, max_along_widen]
  -- Each bound is one of the values, and bounds the old values and the new one.
  refine ⟨⟨?_, ?_⟩, ⟨?_, ?_⟩⟩
  · rcases Std.min_eq_or (a := e.min.along axis) (b := s.along axis) with heq | heq
    · rw [heq]
      exact hold _ hmin
    · rw [heq]
      exact hnew
  · rintro v ⟨t, ht, rfl⟩
    rcases List.mem_append.mp ht with ht | ht
    · exact Int16.le_trans Std.min_le_left (hle ⟨t, ht, rfl⟩)
    · rw [List.mem_singleton.mp ht]
      exact Std.min_le_right
  · rcases Std.max_eq_or (a := e.max.along axis) (b := s.along axis) with heq | heq
    · rw [heq]
      exact hold _ hmax
    · rw [heq]
      exact hnew
  · rintro v ⟨t, ht, rfl⟩
    rcases List.mem_append.mp ht with ht | ht
    · exact Int16.le_trans (hge ⟨t, ht, rfl⟩) Std.left_le_max
    · rw [List.mem_singleton.mp ht]
      exact Std.right_le_max

/-- The envelope widened by what may have been read. -/
def widenBy (e : Envelope) : Option Sample → Envelope
  | some s => e.widen s
  | none => e

theorem Spans.widenBy {e : Envelope} {samples : List Sample} (h : e.Spans samples) :
    ∀ read : Option Sample, (e.widenBy read).Spans (samples ++ read.toList)
  | some s => h.widen s
  | none => by
    rw [Option.toList_none, List.append_nil]
    exact h

end Envelope

/-! ## What a cue does to a pass -/

namespace Compass

theorem envelope_observe (s : Sample) {c : Compass} (h : c.phase = .calibrating) :
    (c.observe s).envelope = c.envelope.widen s := by
  rw [observe, h]

/-- A pass that goes on takes in what was read and nothing else. -/
theorem envelope_of_running {c : Compass} {cue : Cue} (hc : c.phase = .calibrating)
    (h : (c.respond cue).phase = .calibrating) :
    (c.respond cue).envelope = c.envelope.widenBy cue.sample? := by
  cases cue with
  | reading sample now =>
    rw [respond] at h ⊢
    split at h
    · cases h
    next hover =>
      rw [if_neg hover]
      exact envelope_observe sample hc
  | start => rw [respond, begun, if_pos hc]; rfl
  | startTimed now =>
    have hc' : (c.timed now).phase = .calibrating := hc
    rw [respond, begun, if_pos hc']
    rfl
  | finish => cases h
  | cleared => rw [respond, forget, hc]; rfl
  | nothing => rfl
  | inquiry => rfl

/-- Only a start begins a pass, and it starts out from the latest sample. -/
theorem opened_of_calibrating {c : Compass} {cue : Cue} (hc : c.phase ≠ .calibrating)
    (h : (c.respond cue).phase = .calibrating) :
    (cue = .start ∨ ∃ now, cue = .startTimed now) ∧
      (c.respond cue).envelope = .seeded c.sample := by
  cases cue with
  | reading sample now =>
    rw [respond] at h
    split at h
    · cases h
    · rw [phase_observe] at h
      exact absurd h hc
  | start =>
    refine ⟨.inl rfl, ?_⟩
    rw [respond, begun, if_neg hc]
    rfl
  | startTimed now =>
    refine ⟨.inr ⟨now, rfl⟩, ?_⟩
    have hc' : (c.timed now).phase ≠ .calibrating := hc
    rw [respond, begun, if_neg hc']
    rfl
  | finish => cases h
  | cleared =>
    rw [respond, forget] at h
    split at h
    · cases h
    · exact absurd h hc
  | nothing => exact absurd h hc
  | inquiry => exact absurd h hc

/-- A pass is ended by a call to that effect or by a reading. The compass settles with what it knows
by then, so the reading still counts. -/
theorem settles_of_ended {c : Compass} {cue : Cue} (hc : c.phase = .calibrating)
    (h : (c.respond cue).phase ≠ .calibrating) :
    (cue = .finish ∨ ∃ sample now, cue = .reading sample now) ∧
      ∃ known : Compass, c.respond cue = known.settle ∧
        known.envelope = c.envelope.widenBy cue.sample? := by
  cases cue with
  | reading sample now =>
    refine ⟨.inr ⟨sample, now, rfl⟩, c.observe sample, ?_, envelope_observe sample hc⟩
    rw [respond] at h ⊢
    split at h
    next hover => exact if_pos hover
    next =>
      rw [phase_observe] at h
      exact absurd hc h
  | finish => exact ⟨.inl rfl, c, rfl, rfl⟩
  | start => exact absurd (phase_begun c) h
  | startTimed now => exact absurd (phase_begun (c.timed now)) h
  | cleared =>
    rw [respond, forget, hc] at h
    exact absurd hc h
  | nothing => exact absurd hc h
  | inquiry => exact absurd hc h

end Compass

/-! ## Passes in a list of calls -/

section

variable {β : Type}

/-- A call that starts a calibration and finds none running. -/
def Call.BeginsPass (call : Call β) : Prop :=
  (call.command = .startCalibration ∨ call.command = .startTimed) ∧
    call.before.compass.phase ≠ .calibrating

/-- A list of calls taken apart at one of them. -/
structure Pass (β : Type) where
  earlier : List (Call β)
  /-- The call that begins the pass. -/
  opening : Call β
  later : List (Call β)

/-- A pass that was begun in a list of calls and was found running by every call since. -/
structure Pass.RunsIn (pass : Pass β) (calls : List (Call β)) : Prop where
  split : calls = pass.earlier ++ pass.opening :: pass.later
  begins : pass.opening.BeginsPass
  since : ∀ call ∈ pass.later, call.before.compass.phase = .calibrating

namespace Pass

/-- The pass with one more call. -/
def through (pass : Pass β) (call : Call β) : Pass β := { pass with later := pass.later ++ [call] }

theorem RunsIn.through {pass : Pass β} {calls : List (Call β)} (h : pass.RunsIn calls)
    {call : Call β} (hcall : call.before.compass.phase = .calibrating) :
    (pass.through call).RunsIn (calls ++ [call]) := by
  refine ⟨?_, h.begins, ?_⟩
  · rw [h.split, List.append_assoc, List.cons_append]
    rfl
  · intro c hc
    rcases List.mem_append.mp hc with hc | hc
    · exact h.since c hc
    · rw [List.mem_singleton.mp hc]
      exact hcall

theorem runsIn_opened (calls : List (Call β)) {call : Call β} (h : call.BeginsPass) :
    (⟨calls, call, []⟩ : Pass β).RunsIn (calls ++ [call]) := by
  refine ⟨rfl, h, ?_⟩
  intro c hc
  cases hc

/-- What a pass goes by: the sample from which it started out, and the readings taken in since. -/
def collected [Board β] (pass : Pass β) : List Sample :=
  pass.opening.before.compass.sample :: pass.later.filterMap Call.reading

theorem collected_through [Board β] (pass : Pass β) (call : Call β) :
    (pass.through call).collected = pass.collected ++ call.reading.toList := by
  have hcall : [call].filterMap Call.reading = call.reading.toList := by
    cases h : call.reading with
    | none => rw [List.filterMap_cons_none h]; rfl
    | some s => rw [List.filterMap_cons_some h]; rfl
  show _ :: (pass.later ++ [call]).filterMap Call.reading = _
  rw [List.filterMap_append, hcall]
  rfl

end Pass

end

/-! ## What an envelope has kept of a pass -/

section

variable {β : Type} [Board β]

/-- The call ends a calibration pass, or is to do so although none is running. -/
def Call.Ends (call : Call β) : Prop := call.command = .finishCalibration ∨ call.EndsPass

instance (call : Call β) : Decidable call.Ends := inferInstanceAs (Decidable (_ ∨ _))

theorem getLastD_filterMap_concat {α γ : Type} (f : α → Option γ) (l : List α) (a : α) (d : γ) :
    ((l ++ [a]).filterMap f).getLastD d = (f a).getD ((l.filterMap f).getLastD d) := by
  rw [List.filterMap_append]
  cases h : f a with
  | none =>
    rw [List.filterMap_cons_none h, List.filterMap_nil, List.append_nil]
    rfl
  | some c =>
    rw [List.filterMap_cons_some h, List.filterMap_nil, List.getLastD_concat]
    rfl

/-- The latest of the readings taken in by some calls, or zero if there is none. -/
def latestReading (calls : List (Call β)) : Sample := (calls.filterMap Call.reading).getLastD .zero

theorem latestReading_append (calls : List (Call β)) (call : Call β) :
    latestReading (calls ++ [call]) = call.reading.getD (latestReading calls) :=
  getLastD_filterMap_concat Call.reading calls call .zero

/-- While a pass runs, the envelope spans all that it has collected so far. -/
structure PassInv (calls : List (Call β)) (c : Compass) : Prop where
  sample : c.sample = latestReading calls
  running : c.phase = .calibrating → ∃ pass : Pass β, pass.RunsIn calls ∧
    pass.opening.before.compass.sample = latestReading pass.earlier ∧
    c.envelope.Spans pass.collected

theorem PassInv.ofOffset (settings : CompassSettings) (offset : Sample) :
    PassInv ([] : List (Call β)) (Compass.ofOffset settings offset) := by
  exact ⟨rfl, fun h => absurd h (Compass.phase_ofOffset_ne settings offset)⟩

theorem Call.cue_eq_start {call : Call β} :
    (call.cue = .start ∨ ∃ now, call.cue = .startTimed now) ↔
      (call.command = .startCalibration ∨ call.command = .startTimed) := by
  constructor
  · rintro (hcue | ⟨now, hcue⟩)
    · exact .inl (call.command_of_cue _ (by rw [hcue]; rfl))
    · exact .inr (call.command_of_cue _ (by rw [hcue]; rfl))
  · rintro (hcommand | hcommand)
    · exact .inl (by rw [cue, hcommand]; rfl)
    · exact .inr ⟨call.now, by rw [cue, hcommand]; rfl⟩

theorem begins_of_cue {call : Call β} (h : call.before.compass.phase ≠ .calibrating)
    (hcue : call.cue = .start ∨ ∃ now, call.cue = .startTimed now) : call.BeginsPass :=
  ⟨Call.cue_eq_start.mp hcue, h⟩

/-- The invariant through a call: a pass that goes on is widened, one that begins is seeded. -/
theorem PassInv.call {calls : List (Call β)} {call : Call β}
    (inv : PassInv calls call.before.compass) :
    PassInv (calls ++ [call]) call.after.compass := by
  rw [call.compass_after]
  constructor
  · rw [Compass.sample_respond, latestReading_append, call.reading_eq, inv.sample]
  · intro hafter
    by_cases hbefore : call.before.compass.phase = .calibrating
    · -- The pass that was running goes on.
      obtain ⟨pass, hruns, hseed, hspans⟩ := inv.running hbefore
      refine ⟨pass.through call, hruns.through hbefore, hseed, ?_⟩
      rw [Compass.envelope_of_running hbefore hafter, pass.collected_through call, call.reading_eq]
      exact hspans.widenBy call.cue.sample?
    · -- The call begins a pass, for which all calls so far are earlier ones.
      obtain ⟨hcue, hseeded⟩ := Compass.opened_of_calibrating hbefore hafter
      refine ⟨⟨calls, call, []⟩, Pass.runsIn_opened calls (begins_of_cue hbefore hcue),
        inv.sample, ?_⟩
      rw [hseeded]
      exact Envelope.spans_seeded call.before.compass.sample

theorem Call.command_of_endsPass {call : Call β} (h : call.EndsPass) :
    call.command = .finishCalibration ∨ call.command = .idleTick := by
  obtain ⟨hbefore, hafter⟩ := h
  rw [call.compass_after] at hafter
  rcases (Compass.settles_of_ended hbefore hafter).1 with hcue | ⟨sample, now, hcue⟩
  · exact .inl (call.command_of_cue _ (by rw [hcue]; rfl))
  · exact .inr (call.command_of_cue _ (by rw [hcue]; rfl))

/-- An end of a pass finds the centre of what was collected, the reading that ends it included. -/
theorem PassInv.centres {calls : List (Call β)} {call : Call β}
    (inv : PassInv calls call.before.compass) (hend : call.EndsPass) :
    (call.command = .finishCalibration ∨ call.command = .idleTick) ∧
      ∃ pass : Pass β, pass.RunsIn calls ∧
        Envelope.Centres call.after.compass.offset (pass.through call).collected := by
  refine ⟨Call.command_of_endsPass hend, ?_⟩
  obtain ⟨hbefore, hafter⟩ := hend
  obtain ⟨pass, hruns, -, hspans⟩ := inv.running hbefore
  refine ⟨pass, hruns, ?_⟩
  rw [call.compass_after] at hafter ⊢
  obtain ⟨-, known, hsettled, henvelope⟩ := Compass.settles_of_ended hbefore hafter
  have hoffset : (call.before.compass.respond call.cue).offset =
      (call.before.compass.envelope.widenBy call.cue.sample?).midpoint := by
    rw [hsettled, ← henvelope]
    rfl
  rw [hoffset, pass.collected_through call, call.reading_eq]
  exact (hspans.widenBy call.cue.sample?).centres

theorem PassInv.of_run {settings : CompassSettings} {board : β} {steps : List (Step β)}
    {h : History β} (run : History.run? settings board steps = some h) :
    PassInv h.calls h.station.compass := by
  refine History.compass_induction (P := fun calls _ c => PassInv calls c) run ?_ ?_
  · intro _ offset _ _
    exact PassInv.ofOffset settings offset
  · intro calls _ call inv
    exact inv.call

/-- The envelope of a running pass spans what the pass has collected: the latest sample before it
began, and every reading taken in since. The offset found at its end is the centre of all that, the
reading that comes in with the end included. -/
theorem envelope_spans_collected {settings : CompassSettings} {board : β} {steps : List (Step β)}
    {h : History β} (run : History.run? settings board steps = some h) :
    h.station.compass.sample = latestReading h.calls ∧
      (h.station.compass.phase = .calibrating →
        (∃ pass : Pass β, pass.RunsIn h.calls ∧
          pass.opening.before.compass.sample = latestReading pass.earlier ∧
          h.station.compass.envelope.Spans pass.collected) ∧
        ∀ now, (h.next now .finishCalibration).EndsPass) ∧
      ∀ now command, (h.next now command).EndsPass →
        (command = .finishCalibration ∨ command = .idleTick) ∧
          ∃ pass : Pass β, pass.RunsIn h.calls ∧
            Envelope.Centres (h.next now command).after.compass.offset
              (pass.through (h.next now command)).collected := by
  have inv : PassInv h.calls h.station.compass := PassInv.of_run run
  refine ⟨inv.sample, fun hphase => ⟨inv.running hphase, fun now => ⟨hphase, ?_⟩⟩, ?_⟩
  · rw [Call.compass_after]
    nofun
  · intro now command hend
    have hbefore : PassInv h.calls (h.next now command).before.compass := inv
    exact hbefore.centres hend

/-- A pass that misses a reading for want of the bus and is begun again in the middle. The tick that
ends it brings in one more reading, and the offset is found although it cannot be stored. -/
theorem offset_centres_interrupted_pass :
    let steps : List (Step Bench) :=
      [.change (Bench.measure ⟨40, -3, 7⟩), .perform 0 .idleTick, .perform 1 .startTimed,
        .change fun b => { b.measure ⟨900, 900, 900⟩ with outage := some .bus },
        .perform 2 .idleTick,
        .change fun b => { b with outage := none, writeFaults := fun _ => some .overrun },
        .change (Bench.measure ⟨-10, 9, 8⟩), .perform 3 .idleTick, .perform 4 .startCalibration,
        .change (Bench.measure ⟨0, 20, 7⟩)]
    ∃ h : History Bench, History.run? {} {} steps = some h ∧
      h.station.compass.envelope = ⟨⟨-10, -3, 7⟩, ⟨40, 9, 8⟩⟩ ∧
      (h.next 20000 .idleTick).after.compass.offset = ⟨15, 8, 7⟩ ∧
      (h.next 20000 .idleTick).EndsPass ∧
      ∃ pass : Pass Bench, pass.RunsIn h.calls ∧
        Envelope.Centres (h.next 20000 .idleTick).after.compass.offset
          (pass.through (h.next 20000 .idleTick)).collected := by
  intro steps
  have run : History.run? {} ({} : Bench) steps = some _ := rfl
  obtain ⟨-, -, hends⟩ := envelope_spans_collected run
  have hend := hends 20000 .idleTick ⟨by decide, by decide⟩
  exact ⟨_, run, by decide, by decide, ⟨by decide, by decide⟩, hend.2⟩

end

end Magnetometer
