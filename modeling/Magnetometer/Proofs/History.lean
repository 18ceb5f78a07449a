import Magnetometer.Proofs.Cue

/-!
# Histories

A `History` is the life of a compass from its start on: the calls made so far, the journal of all
that happened, and the compass on its board as it stands. It goes on by `Step`s: either the compass
carries out a command, at whatever moment the clock shows, or the board is changed from outside in
any way whatsoever. So histories cover all orders of operations, all data and all failures.

`History.induction` is the induction over histories. `History.compass_induction` is its form for
statements that do not speak of the board: there the changes from outside drop out, and a call
comes to its cue.
-/

namespace Magnetometer

/-- A command carried out by a compass. -/
structure Call (β : Type) where
  /-- What the clock shows. -/
  now : UInt64
  command : Command
  /-- The compass on its board at the time of the call. -/
  before : Station β

namespace Call

variable {β : Type} [Board β]

/-- What comes of the call. -/
def outcome (call : Call β) : Outcome (Station β) Refusal Answer :=
  (call.command.perform call.now).run call.before

/-- The compass on its board after the call. -/
def after (call : Call β) : Station β := call.outcome.state

/-- What the call comes to for the compass. -/
def cue (call : Call β) : Cue := call.command.cue call.now call.before

/-- The reading that the call takes in, which only ticks do. -/
def reading (call : Call β) : Option Sample :=
  match call.command with
  | .idleTick => call.before.reading
  | _ => none

/-- A pass was running, and runs no more after the call. -/
def EndsPass (call : Call β) : Prop :=
  call.before.compass.phase = .calibrating ∧ call.after.compass.phase ≠ .calibrating

instance (call : Call β) : Decidable call.EndsPass := inferInstanceAs (Decidable (_ ∧ _))

theorem explained (call : Call β) : call.cue.Explains call.before.compass call.outcome :=
  cue_explains call.now call.command call.before

theorem compass_after (call : Call β) :
    call.after.compass = call.before.compass.respond call.cue :=
  call.explained.compass

theorem reading_eq (call : Call β) : call.reading = call.cue.sample? := by
  obtain ⟨now, command, before⟩ := call
  cases command with
  | idleTick =>
    show before.reading = (before.tickCue now).sample?
    rw [Station.tickCue]
    cases before.reading <;> rfl
  | clearCalibration =>
    show none = before.clearCue.sample?
    rw [Station.clearCue]
    cases before.cleared.result <;> rfl
  | _ => rfl

theorem command_of_cue (call : Call β) :
    ∀ command, call.cue.command? = some command → call.command = command := by
  obtain ⟨now, command, before⟩ := call
  intro command' h
  cases command with
  | idleTick =>
    have h : (before.tickCue now).command? = some command' := h
    rw [Station.tickCue] at h
    split at h
    · exact Option.some.inj h
    · cases h
  | clearCalibration =>
    have h : before.clearCue.command? = some command' := h
    rw [Station.clearCue] at h
    split at h
    · exact Option.some.inj h
    · cases h
  | heading => exact Option.some.inj h
  | startCalibration => exact Option.some.inj h
  | startTimed => exact Option.some.inj h
  | finishCalibration => exact Option.some.inj h
  | _ => cases h

/-! ### Ticks -/

variable {call : Call β}

theorem cue_of_tick (hcommand : call.command = .idleTick) :
    call.cue = call.before.tickCue call.now := by
  rw [cue, hcommand]
  rfl

/-- A tick without a reading changes nothing for the compass. -/
theorem not_endsPass_of_no_reading (hcommand : call.command = .idleTick)
    (hread : call.before.reading = none) : ¬ call.EndsPass := by
  have hafter : call.after.compass = call.before.compass := by
    rw [call.compass_after, call.cue_of_tick hcommand, Station.tickCue_of_none _ hread]
    rfl
  rintro ⟨hbefore, hended⟩
  rw [hafter] at hended
  exact hended hbefore

/-- A tick with a reading ends a pass exactly if the pass is over. -/
theorem endsPass_of_reading (hcommand : call.command = .idleTick) {sample : Sample}
    (hread : call.before.reading = some sample) :
    call.EndsPass ↔ (call.before.compass.observe sample).passOver call.now = true := by
  have hafter : call.after.compass =
      call.before.compass.respond (.reading sample call.now) := by
    rw [call.compass_after, call.cue_of_tick hcommand, Station.tickCue_of_some _ hread]
  constructor
  · rintro ⟨hbefore, hended⟩
    rw [hafter, Compass.respond] at hended
    split at hended
    · assumption
    · rw [Compass.phase_observe] at hended
      exact absurd hbefore hended
  · intro hover
    refine ⟨?_, ?_⟩
    · rw [← Compass.phase_observe sample]
      exact (Compass.passOver_iff.mp hover).1
    · rw [hafter, Compass.respond, if_pos hover]
      exact Compass.phase_settle_ne _

end Call

/-- How a history goes on. -/
inductive Step (β : Type)
  /-- The compass carries out a command while the clock shows a moment. -/
  | perform (now : UInt64) (command : Command)
  /-- The board is changed from outside. -/
  | change (f : β → β)

/-- The life of a compass. -/
structure History (β : Type) where
  /-- The calls made so far, the earliest first. -/
  calls : List (Call β)
  /-- All that happened, the start of the compass included. -/
  journal : Journal
  /-- The compass on its board as it stands. -/
  station : Station β

namespace History

variable {β : Type}

/-- The start of a compass on a board, unless it fails. -/
def start? [Bus β] (settings : CompassSettings) (board : β) : Option (History β) :=
  let out := (Compass.boot settings).run board
  match out.result with
  | .ok compass => some ⟨[], out.journal, ⟨compass, out.state⟩⟩
  | .error _ => none

section

variable [Board β]

/-- The call by which a history goes on. -/
def next (h : History β) (now : UInt64) (command : Command) : Call β := ⟨now, command, h.station⟩

/-- The history after one more step. -/
def extend (h : History β) : Step β → History β
  | .perform now command =>
    let call := h.next now command
    ⟨h.calls ++ [call], h.journal ++ call.outcome.journal, call.after⟩
  | .change f => { h with station := { h.station with board := f h.station.board } }

/-- The history of a compass that is started on a board and then goes through some steps. -/
def run? (settings : CompassSettings) (board : β) (steps : List (Step β)) : Option (History β) :=
  (start? settings board).map (steps.foldl extend)

end

theorem start?_eq_some [Bus β] {settings : CompassSettings} {board : β} {h : History β}
    (hstart : start? settings board = some h) :
    ∃ compass, ((Compass.boot settings).run board).result = .ok compass ∧
      h = ⟨[], ((Compass.boot settings).run board).journal,
        ⟨compass, ((Compass.boot settings).run board).state⟩⟩ := by
  cases hboot : ((Compass.boot settings).run board).result with
  | error e =>
    simp only [start?, hboot, reduceCtorEq] at hstart
  | ok compass =>
    simp only [start?, hboot, Option.some.injEq] at hstart
    exact ⟨compass, rfl, hstart.symm⟩

/-- The journal of a start speaks neither of events nor of passes. -/
theorem start?_silent [Bus β] {settings : CompassSettings} {board : β} {h : History β}
    (hstart : start? settings board = some h) :
    h.calls = [] ∧ h.journal.events = [] ∧ h.journal.passlessEnds = 0 ∧
      ∃ offset, h.station.compass = Compass.ofOffset settings offset := by
  obtain ⟨compass, hboot, rfl⟩ := start?_eq_some hstart
  obtain ⟨-, -, offset, -, -, -, hcompass, -, -⟩ := Compass.boot_eq_ok hboot
  obtain ⟨hevents, hremarks⟩ := Compass.silent_boot settings board
  exact ⟨rfl, hevents, hremarks, offset, hcompass⟩

/-! ## Induction over histories -/

variable [Board β] {settings : CompassSettings} {board : β} {steps : List (Step β)}
  {h : History β}

theorem foldl_extend_induction {P : History β → Prop} :
    ∀ (steps : List (Step β)) (h : History β),
      (∀ s ∈ steps, ∀ h, P h → P (h.extend s)) → P h → P (steps.foldl extend h) := by
  intro steps
  induction steps with
  | nil =>
    intro h _ hP
    exact hP
  | cons s steps ih =>
    intro h hstep hP
    rw [List.foldl_cons]
    have hP' := hstep s List.mem_cons_self h hP
    exact ih (h.extend s) (fun s' hs' => hstep s' (List.mem_cons_of_mem _ hs')) hP'

/-- What holds at the start and is kept by every step holds of every history. -/
theorem induction {P : History β → Prop} (run : run? settings board steps = some h)
    (start : ∀ h₀, start? settings board = some h₀ → P h₀)
    (step : ∀ s ∈ steps, ∀ h, P h → P (h.extend s)) : P h := by
  obtain ⟨h₀, hstart, rfl⟩ := Option.map_eq_some_iff.mp run
  exact foldl_extend_induction steps h₀ step (start h₀ hstart)

/-- Induction for what does not depend on the board. -/
theorem compass_induction {P : List (Call β) → Journal → Compass → Prop}
    (run : run? settings board steps = some h)
    (start : ∀ journal offset, journal.events = [] → journal.passlessEnds = 0 →
      P [] journal (Compass.ofOffset settings offset))
    (call : ∀ calls journal (call : Call β), P calls journal call.before.compass →
      P (calls ++ [call]) (journal ++ call.outcome.journal) call.after.compass) :
    P h.calls h.journal h.station.compass := by
  refine induction (P := fun h => P h.calls h.journal h.station.compass) run ?_ ?_
  · intro h₀ hstart
    obtain ⟨hcalls, hevents, hremarks, offset, hcompass⟩ := start?_silent hstart
    rw [hcalls, hcompass]
    exact start h₀.journal offset hevents hremarks
  · intro s _ h hP
    -- A change from outside reaches the board only.
    cases s with
    | perform now command => exact call h.calls h.journal (h.next now command) hP
    | change f => exact hP

theorem setup_of_run (run : run? settings board steps = some h) :
    h.station.compass.setup = (settings.id, ⟨settings.address⟩, settings.period) := by
  refine compass_induction
    (P := fun _ _ c => c.setup = (settings.id, ⟨settings.address⟩, settings.period)) run ?_ ?_
  · intro _ offset _ _
    rfl
  · intro _ _ call hsetup
    rw [call.compass_after, Compass.setup_respond]
    exact hsetup

end History

end Magnetometer
