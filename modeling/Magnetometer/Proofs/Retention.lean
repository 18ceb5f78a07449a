import Magnetometer.Proofs.Encoding
import Magnetometer.Proofs.Inquiry
import Magnetometer.Proofs.Restart
import Magnetometer.Proofs.Torn

/-!
# The envelope between passes

When a pass has ended, the compass keeps its envelope until the next one begins (`Compass.Retains`).
Readings go on coming in, headings are asked for, the stored offset is cleared; none of this touches
the envelope. So the end of the pass can be repeated: it finds the same offset and stores it anew,
whatever became of it in the meantime.

Main statement: `ends_repeat`.
-/

namespace Magnetometer

open RegisterDevice (registers)

/-! ## What a compass retains -/

namespace Compass

/-- No pass is running, and the last one has left an envelope. -/
structure Retains (c : Compass) (envelope : Envelope) : Prop where
  idle : c.phase ≠ .calibrating
  envelope : c.envelope = envelope

theorem envelope_observe_of_idle (s : Sample) {c : Compass} (h : c.phase ≠ .calibrating) :
    (c.observe s).envelope = c.envelope := by
  unfold observe
  split
  next hrunning => exact absurd hrunning h
  next => rfl

theorem envelope_forget (c : Compass) : c.forget.envelope = c.envelope := by
  unfold forget
  split <;> rfl

/-- All that a cue can do to a retained envelope is to begin another one. -/
theorem Retains.respond {c : Compass} {envelope : Envelope} (h : c.Retains envelope) {cue : Cue}
    (hcue : ¬ (cue = .start ∨ ∃ now, cue = .startTimed now)) :
    (c.respond cue).Retains envelope := by
  refine ⟨fun hrunning => hcue (opened_of_calibrating h.idle hrunning).1, ?_⟩
  rw [← h.envelope]
  cases cue with
  | reading sample now =>
    rw [Compass.respond]
    split
    · exact envelope_observe_of_idle sample h.idle
    · exact envelope_observe_of_idle sample h.idle
  | start => exact absurd (.inl rfl) hcue
  | startTimed now => exact absurd (.inr ⟨now, rfl⟩) hcue
  | cleared => exact c.envelope_forget
  | finish => rfl
  | nothing => rfl
  | inquiry => rfl

theorem retains_settle (c : Compass) : c.settle.Retains c.envelope := ⟨c.phase_settle_ne, rfl⟩

theorem settle_settle (c : Compass) : c.settle.settle = c.settle := rfl

end Compass

section

variable {β : Type} [Board β]

namespace Call

variable {call : Call β}

theorem retains {envelope : Envelope} (h : call.before.compass.Retains envelope)
    (hcall : ¬ call.Starts) : call.after.compass.Retains envelope := by
  rw [call.compass_after]
  exact h.respond fun hcue => hcall (cue_eq_start.mp hcue)

/-- To end a pass, or to repeat its end, is to settle. -/
theorem after_finish (h : call.command = .finishCalibration) :
    call.after.compass = call.before.compass.settle := by
  rw [call.compass_after, cue_eq_finish.mpr h]
  rfl

end Call

/-- The step asks for a calibration pass. -/
def Step.Starts : Step β → Prop
  | .perform _ command => command = .startCalibration ∨ command = .startTimed
  | .change _ => False

instance : DecidablePred (Step.Starts (β := β))
  | .perform _ _ => inferInstanceAs (Decidable (_ ∨ _))
  | .change _ => inferInstanceAs (Decidable False)

theorem History.retains {h : History β} {envelope : Envelope} {later : List (Step β)}
    (hretains : h.station.compass.Retains envelope) (hlater : ∀ s ∈ later, ¬ s.Starts) :
    (later.foldl extend h).station.compass.Retains envelope := by
  refine foldl_extend_induction (P := fun h => h.station.compass.Retains envelope) later h
    (fun s hs h hretains => ?_) hretains
  cases s with
  | perform now command => exact (h.next now command).retains hretains (hlater _ hs)
  | change f => exact hretains

end

/-! ## Storing what is stored -/

theorem Sensor.registers_writeOffset_again {β : Type} [RegisterDevice β] {sensor : Sensor}
    {offset : Sample} {b : β} (hstores : (registers b).Stores offset)
    (hclean : ((sensor.writeOffset offset).run b).journal.Clean) :
    registers ((sensor.writeOffset offset).run b).state = registers b :=
  (registers_writeOffset hclean).trans hstores.storeAll

/-- On a steady device it does no harm either if some of the bytes do not get through. -/
theorem Sensor.registers_torn_again {β : Type} [SteadyDevice β] {offset : Sample} {b : β}
    (sensor : Sensor) (hstores : (registers b).Stores offset) :
    registers ((sensor.writeOffset offset).run b).state = registers b := by
  obtain ⟨fault, hmade⟩ := sensor.storeEach_attempted b (nodup_offsetBytes offset)
  rw [sensor.registers_torn offset b hmade]
  refine RegisterFile.storeAll_of_held fun p hp => ?_
  obtain ⟨axis, half, rfl⟩ := mem_offsetBytes.mp (List.mem_filter.mp hp).1
  exact hstores axis half

namespace Station

theorem compass_finishCalibration {β : Type} [Bus β] (s : Station β) :
    (finishCalibration.run s).state.compass = s.compass.settle := by
  rw [run_finishCalibration]

theorem board_finishCalibration {β : Type} [Bus β] (s : Station β) :
    (finishCalibration.run s).state.board = s.stored.state := by
  rw [run_finishCalibration]

theorem clean_stored {β : Type} [Bus β] {s : Station β}
    (hok : (finishCalibration.run s).result = .ok ()) : s.stored.journal.Clean := by
  have hstored : s.stored.result = .ok () := by
    rw [run_finishCalibration] at hok
    exact hok
  exact (s.compass.sensor.closed_reports.writeOffset _ fun _ _ => True.intro).clean hstored

/-- An offset that was found and stored is there, and would be found once more. -/
theorem stores_of_finished {β : Type} [RegisterDevice β] {s : Station β}
    (hok : (finishCalibration.run s).result = .ok ()) :
    let once := finishCalibration.run s
    (registers once.state.board).Stores once.state.compass.envelope.midpoint := by
  intro once
  have hcompass : once.state.compass = s.compass.settle := compass_finishCalibration s
  have hboard : once.state.board = s.stored.state := board_finishCalibration s
  rw [hcompass, hboard]
  exact Sensor.stores_writeOffset (clean_stored hok)

theorem compass_finish_again {β : Type} [Bus β] (s : Station β) :
    let once := finishCalibration.run s
    (finishCalibration.run once.state).state.compass = once.state.compass := by
  intro once
  have hcompass : once.state.compass = s.compass.settle := compass_finishCalibration s
  rw [compass_finishCalibration, hcompass]
  exact s.compass.settle_settle

theorem registers_finish_again {β : Type} [RegisterDevice β] {s : Station β}
    (hok : (finishCalibration.run s).result = .ok ()) :
    let once := finishCalibration.run s
    let twice := finishCalibration.run once.state
    twice.result = .ok () → registers twice.state.board = registers once.state.board := by
  intro once twice hagain
  rw [board_finishCalibration]
  exact Sensor.registers_writeOffset_again (stores_of_finished hok) (clean_stored hagain)

/-- On a steady device it does not matter if storing the offset once more fails. -/
theorem registers_finish_again_of_steady {β : Type} [SteadyDevice β] {s : Station β}
    (hok : (finishCalibration.run s).result = .ok ()) :
    let once := finishCalibration.run s
    registers (finishCalibration.run once.state).state.board = registers once.state.board := by
  intro once
  rw [board_finishCalibration]
  exact Sensor.registers_torn_again once.state.compass.sensor (stores_of_finished hok)

end Station

/-- While no pass is running and none is asked for, whatever else is done and whatever fails, the
envelope stays as it is, and every end of a pass finds its midpoint. So after a pass was ended,
whether its offset could be stored or not, and whether it was cleared since or not, another end that
goes through without failure brings that offset back, in the compass and in the device. And an end
that follows at once on one that went through changes nothing in the compass; nor does it change a
register, unless it fails on a device on which a failure may have an effect. -/
theorem ends_repeat {β γ : Type} [RegisterDevice β] [SteadyDevice γ] {h : History β}
    {later : List (Step β)} (hlater : ∀ s ∈ later, ¬ s.Starts) (now : UInt64) :
    (h.station.compass.phase ≠ .calibrating →
      let last := later.foldl History.extend h
      let envelope := h.station.compass.envelope
      last.station.compass.phase ≠ .calibrating ∧
        last.station.compass.envelope = envelope ∧
        (last.next now .finishCalibration).after.compass.offset = envelope.midpoint) ∧
    (∀ moment command answer,
      let ending := h.next moment command
      let offset := ending.after.compass.offset
      let last := later.foldl History.extend (h.extend (.perform moment command))
      let again := last.next now .finishCalibration
      ending.Ends → again.outcome.result = .ok answer →
        again.after.compass.offset = offset ∧ again.after.compass.phase = .calibrated ∧
          (registers again.after.board).Stores offset) ∧
    (∀ s : Station β,
      let once := Station.finishCalibration.run s
      let twice := Station.finishCalibration.run once.state
      once.result = .ok () → twice.state.compass = once.state.compass ∧
        (twice.result = .ok () → registers twice.state.board = registers once.state.board)) ∧
    ∀ s : Station γ,
      let once := Station.finishCalibration.run s
      let twice := Station.finishCalibration.run once.state
      once.result = .ok () → twice.state.compass = once.state.compass ∧
        registers twice.state.board = registers once.state.board := by
  refine ⟨?_, ?_, ?_, ?_⟩
  · intro hidle last envelope
    have hlast : last.station.compass.Retains envelope := History.retains ⟨hidle, rfl⟩ hlater
    refine ⟨hlast.idle, hlast.envelope, ?_⟩
    rw [Call.after_finish rfl]
    exact congrArg Envelope.midpoint hlast.envelope
  · intro moment command answer ending offset last again hends hok
    obtain ⟨known, hsettled, -⟩ := Call.settles hends
    have hoffset : offset = known.envelope.midpoint := congrArg Compass.offset hsettled
    -- The envelope from which the offset came is retained from the end on.
    have hretains : (h.extend (.perform moment command)).station.compass.Retains
        known.envelope := by
      have hafter : (h.extend (.perform moment command)).station.compass = known.settle := hsettled
      rw [hafter]
      exact known.retains_settle
    have hlast : last.station.compass.Retains known.envelope := History.retains hretains hlater
    have hagain : again.after.compass.offset = offset := by
      rw [Call.after_finish rfl, hoffset]
      exact congrArg Envelope.midpoint hlast.envelope
    have hleaves : again.errand.leaves? = some offset := by
      rw [Call.leaves_of_end (.inl rfl), hagain]
    refine ⟨hagain, ?_, Call.stores_after hleaves hok⟩
    rw [Call.after_finish rfl]
    rfl
  · intro s once twice hok
    exact ⟨s.compass_finish_again, Station.registers_finish_again hok⟩
  · intro s once twice hok
    exact ⟨s.compass_finish_again, Station.registers_finish_again_of_steady hok⟩

set_option maxRecDepth 1000 in
/-- The end of a timed pass cannot store its offset, and what was stored before is cleared. Later
the offset is stored after all. When that is repeated, the third byte does not get through. -/
theorem ends_repeat_after_outage :
    let steps : List (Step Bench) :=
      [.change (Bench.storeOffset ⟨1, 2, 3⟩), .perform 0 .startTimed,
        .change (Bench.measure ⟨-8, 300, 6⟩), .perform 1 .idleTick,
        .change fun b => { b.measure ⟨10, 20, 30⟩ with writeFaults := fun _ => some .bus }]
    let later : List (Step Bench) :=
      [.change fun b => { b with writeFaults := fun _ => none }, .perform 20001 .clearCalibration,
        .change (Bench.measure ⟨7, 7, 7⟩), .perform 20002 .idleTick, .perform 20003 .heading]
    ∃ h : History Bench, History.run? {} {} steps = some h ∧
      let ending := h.next 20000 .idleTick
      let offset := ending.after.compass.offset
      let last := later.foldl History.extend (h.extend (.perform 20000 .idleTick))
      let again := last.next 20004 .finishCalibration
      ending.outcome.result = .error (.error (.bus .bus)) ∧ offset = ⟨1, 150, 15⟩ ∧
        (registers last.station.board).sampleAt .offset = .zero ∧
        again.after.compass.offset = offset ∧ again.after.compass.phase = .calibrated ∧
        (registers again.after.board).Stores offset ∧
        let s : Station Bench :=
          ⟨last.station.compass, { last.station.board with countdown := some (8, .overrun) }⟩
        let once := Station.finishCalibration.run s
        let twice := Station.finishCalibration.run once.state
        twice.result = .error (.bus .overrun) ∧ twice.state.compass = once.state.compass ∧
          registers twice.state.board = registers once.state.board := by
  intro steps later
  let h : History Bench := (History.run? {} {} steps).get rfl
  refine ⟨h, rfl, ?_⟩
  intro ending offset last again
  have hlater : ∀ s ∈ later, ¬ s.Starts := by decide
  have hends : ending.Ends := .inr (by decide)
  have hok : again.outcome.result = .ok .done := by decide
  obtain ⟨-, hrecalls, -, hsteady⟩ := ends_repeat (γ := Bench) (h := h) hlater 20004
  with_reducible
    obtain ⟨hoffset, hphase, hstores⟩ := hrecalls 20000 .idleTick .done hends hok
    refine ⟨by decide, by decide, by decide, hoffset, hphase, hstores, ?_⟩
  intro s once twice
  have honce : once.result = .ok () := by decide
  with_reducible exact ⟨by decide, hsteady s honce⟩

end Magnetometer
