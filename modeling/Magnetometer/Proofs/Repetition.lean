import Magnetometer.Proofs.BoundingBox
import Magnetometer.Proofs.Delivery
import Magnetometer.Proofs.Errand
import Magnetometer.Proofs.Pass
import Magnetometer.Proofs.Tick

/-!
# Ticks that bring nothing new

A tick goes by the line, and a line that stays high does not mean that there is a new reading. So
the same reading may be taken in more than once. It makes no difference: an envelope that was
widened by a sample holds it already, and a pass that is over was ended when the sample came in for
the first time, by the same clock (`Compass.taken_again`).

Main statement: `repeated_tick_idle`.
-/

namespace Magnetometer

open RegisterDevice (registers)

/-! ## The same reading again -/

namespace Compass

theorem observe_observe (s : Sample) (c : Compass) : (c.observe s).observe s = c.observe s := by
  rw [observe_eq, observe_eq]
  dsimp only
  split
  · rw [Envelope.widen_widen]
  · rfl

/-- A reading that was taken in has nothing to tell when it comes again, and by the same clock no
pass is over that was not ended then. -/
theorem taken_again (c : Compass) (s : Sample) (now : UInt64) :
    let taken := c.respond (.reading s now)
    taken.observe s = taken ∧ taken.passOver now = false := by
  intro taken
  by_cases hover : (c.observe s).passOver now = true
  · have htaken : taken = (c.observe s).settle := if_pos hover
    rw [htaken]
    refine ⟨?_, rfl⟩
    -- There is no pass any more for which the reading could count.
    show { (c.observe s).settle with sample := s } = (c.observe s).settle
    rw [settle, sample_observe]
  · have htaken : taken = c.observe s := if_neg hover
    rw [htaken]
    exact ⟨c.observe_observe s, Bool.eq_false_iff.mpr hover⟩

end Compass

/-! ## The reading in the registers -/

section

variable {β : Type} [RegisterDevice β]

theorem not_offsetAddress_output (axis : Axis) (half : Half) :
    ¬ OffsetAddress (Register.output axis half).address := by
  cases axis <;> cases half <;> decide

/-- What an errand without failure does not write to stays as it was. -/
theorem Sensor.get_of_errand {sensor : Sensor} {errand : Errand} {b : β}
    (hclean : ((errand.perform sensor).run b).journal.Clean) {r : UInt8}
    (hr : ¬ errand.Writes r) :
    (registers ((errand.perform sensor).run b).state).get r.toNat = (registers b).get r.toNat := by
  have hreplays := (sensor.closed_replays (β := β) errand.Writes relies_of_no_fault).errand
    (fun _ _ _ _ => rfl) fun _ _ _ _ => rfl
  exact get_of_traffic (sensor.entries_errand errand) hreplays hclean hr

namespace Station

variable {now : UInt64} {s : Station β}

theorem offsetAddress_of_tickErrand {r : UInt8} (h : (s.tickErrand now).Writes r) :
    OffsetAddress r := by
  rcases s.tickErrand_cases now with
    ⟨_, -, herrand⟩ | ⟨-, herrand⟩ | ⟨-, herrand | ⟨_, herrand⟩⟩ <;> rw [herrand] at h
  · cases h
  · cases h
  · cases h
  · exact h

/-- A tick leaves the reading where it is. -/
theorem output_idleTick (hclean : ((idleTick now).run s).journal.Clean) :
    (registers ((idleTick now).run s).state.board).sampleAt .output =
      (registers s.board).sampleAt .output := by
  obtain ⟨hboard, htransactions, -⟩ := s.runs_idleTick now
  rw [Journal.Clean, htransactions] at hclean
  have hkept (axis : Axis) (half : Half) := Sensor.get_of_errand hclean
    (mt offsetAddress_of_tickErrand (not_offsetAddress_output axis half))
  rw [hboard]
  unfold RegisterFile.sampleAt
  simp only [hkept]

end Station

/-! ## Two ticks -/

namespace Station

variable {now : UInt64}

/-- A tick that finds the line high and meets no failure takes in the reading. -/
theorem fetched_of_clean {s : Station β} (hready : Board.dataReady s.board = .ok true)
    (hclean : ((idleTick now).run s).journal.Clean) :
    s.fetched.result = .ok ((registers s.board).sampleAt .output) ∧
      registers s.fetched.state = registers s.board := by
  have hfetched : s.fetched.journal.Clean := by
    rw [run_idleTick, hready] at hclean
    dsimp only at hclean
    split at hclean
    · exact hclean
    · split at hclean
      · exact (Journal.clean_append.mp hclean).1
      · exact hclean
  exact Sensor.readSample_of_clean hfetched

theorem compass_idleTick_of_clean {s : Station β} (hready : Board.dataReady s.board = .ok true)
    (hclean : ((idleTick now).run s).journal.Clean) :
    ((idleTick now).run s).state.compass =
      s.compass.respond (.reading ((registers s.board).sampleAt .output) now) := by
  have hread : s.reading = some ((registers s.board).sampleAt .output) := by
    rw [reading, hready]
    exact congrArg Except.toOption (fetched_of_clean hready hclean).1
  rw [(explains_idleTick now s).compass, tickCue_of_some now hread]

/-- The second of two ticks, if nothing new is announced and the same reading waits still. -/
theorem tick_again (s waiting : Station β) (hclean : ((idleTick now).run s).journal.Clean)
    (hcompass : waiting.compass = ((idleTick now).run s).state.compass)
    (houtput : (registers waiting.board).sampleAt .output = (registers s.board).sampleAt .output)
    (hline : Board.dataReady waiting.board = .ok true → Board.dataReady s.board = .ok true)
    (hpin : ∀ fault, Board.dataReady waiting.board ≠ .error fault)
    (hagain : ((idleTick now).run waiting).journal.Clean) :
    let out := (idleTick now).run waiting
    out.result = .ok () ∧ out.state.compass = waiting.compass ∧
      registers out.state.board = registers waiting.board ∧
      out.journal.notices = [] ∧ out.journal.events = [] := by
  intro out
  rcases hready : Board.dataReady waiting.board with fault | _ | _
  · exact absurd hready (hpin fault)
  · have hrun : out = ⟨.ok (), waiting, []⟩ := by
      show (idleTick now).run waiting = _
      rw [run_idleTick, hready]
    rw [hrun]
    exact ⟨rfl, rfl, rfl, rfl, rfl⟩
  · obtain ⟨hread, hregisters⟩ := fetched_of_clean hready hagain
    obtain ⟨hsame, hgoes⟩ := s.compass.taken_again ((registers s.board).sampleAt .output) now
    rw [← compass_idleTick_of_clean (hline hready) hclean, ← hcompass] at hsame hgoes
    have hrun : out = ⟨.ok (), ⟨waiting.compass, waiting.fetched.state⟩,
        waiting.fetched.journal⟩ := by
      show (idleTick now).run waiting = _
      rw [run_idleTick_of_ok hready hread, houtput, hsame, hgoes]
      rfl
    obtain ⟨hnotices, hevents⟩ := Journal.silent_of_transactions
      (waiting.compass.sensor.entries_readAxes .output waiting.board)
    rw [hrun]
    exact ⟨rfl, rfl, hregisters, hnotices, hevents⟩

theorem state_idleTick_of_not_high {s : Station β} (h : Board.dataReady s.board ≠ .ok true) :
    ((idleTick now).run s).state = s := by
  rw [run_idleTick]
  rcases hready : Board.dataReady s.board with fault | _ | _
  · rfl
  · rfl
  · exact absurd hready h

/-- A tick cannot raise the line. -/
theorem high_before_idleTick {s : Station β}
    (h : Board.dataReady ((idleTick now).run s).state.board = .ok true) :
    Board.dataReady s.board = .ok true := by
  by_contra hlow
  rw [state_idleTick_of_not_high hlow] at h
  exact hlow h

end Station

theorem Rig.run_idleTick {κ : Type} [EventSink κ] {rig : Rig β κ} {compass : Compass} {sink : κ}
    (h : rig.running = some (compass, sink)) :
    let out := (Station.idleTick rig.clock).run ⟨compass, rig.board⟩
    let accepted := EventSink.acceptAll out.journal.events sink
    (perform .idleTick).run rig =
      ⟨(out.result.map fun _ => .done).mapError .error,
        { rig with board := out.state.board, running := some (out.state.compass, accepted.1) },
        out.journal ++ accepted.2.map .notice⟩ := by
  rw [run_perform h, Command.perform, Action.run_mapError, Action.run_map]

/-- Let a compass tick twice by the same clock without any failure, and let the board be changed in
between in any way, but with the same reading in the registers and without the line being raised.
Then the second tick succeeds, and leaves the compass, every register and the sink for events as
they are. It says and publishes nothing. It makes no difference whether the line is still high after
the first tick, nor whether that tick has ended a pass. -/
theorem repeated_tick_idle {κ : Type} [EventSink κ] (compass : Compass) (sink : κ) (board : β)
    (now : UInt64) (meanwhile : β → β) :
    let first := (Rig.perform .idleTick).run (⟨board, now, some (compass, sink)⟩ : Rig β κ)
    let waiting : Rig β κ := { first.state with board := meanwhile first.state.board }
    let second := (Rig.perform .idleTick).run waiting
    (registers waiting.board).sampleAt .output = (registers first.state.board).sampleAt .output →
    (Board.dataReady waiting.board = .ok true →
      Board.dataReady board = .ok true ∨ Board.dataReady first.state.board = .ok true) →
    (∀ fault, Board.dataReady waiting.board ≠ .error fault) →
    first.journal.Clean → second.journal.Clean →
    second.result = .ok .done ∧ second.state.running = first.state.running ∧
      second.state.clock = now ∧ registers second.state.board = registers waiting.board ∧
      second.journal.notices = [] ∧ second.journal.events = [] := by
  intro first waiting second houtput hline hpin hclean hagain
  let out := (Station.idleTick now).run ⟨compass, board⟩
  let left : Station β := ⟨out.state.compass, waiting.board⟩
  have hfirst : first = _ := Rig.run_idleTick rfl
  have hboard : first.state.board = out.state.board := by rw [hfirst]
  have hclock : waiting.clock = now := by
    show first.state.clock = now
    rw [hfirst]
  have hrunning : waiting.running =
      some (out.state.compass, (EventSink.acceptAll out.journal.events sink).1) := by
    show first.state.running = _
    rw [hfirst]
  have hsecond : second = _ := Rig.run_idleTick hrunning
  rw [hclock] at hsecond
  have hout : out.journal.Clean := by
    rw [hfirst] at hclean
    exact (Journal.clean_append.mp hclean).1
  have hagain' : ((Station.idleTick now).run left).journal.Clean := by
    rw [hsecond] at hagain
    exact (Journal.clean_append.mp hagain).1
  have houtput' : (registers waiting.board).sampleAt .output =
      (registers board).sampleAt .output := by
    rw [houtput, hboard]
    exact Station.output_idleTick hout
  have hhigh : Board.dataReady waiting.board = .ok true → Board.dataReady board = .ok true := by
    intro h
    refine (hline h).elim id fun h => ?_
    rw [hboard] at h
    exact Station.high_before_idleTick h
  obtain ⟨hresult, hcompass, hregisters, hnotices, hevents⟩ :=
    Station.tick_again ⟨compass, board⟩ left hout rfl houtput' hhigh hpin hagain'
  have hnone : EventSink.acceptAll ((Station.idleTick now).run left).journal.events
      (EventSink.acceptAll out.journal.events sink).1 =
        ((EventSink.acceptAll out.journal.events sink).1, []) := by
    rw [hevents]
    rfl
  rw [hsecond]
  refine ⟨?_, ?_, hclock, hregisters, ?_, ?_⟩
  · rw [hresult]
    rfl
  · rw [hcompass, hnone]
    exact hrunning.symm
  · rw [hnone, List.map_nil, List.append_nil]
    exact hnotices
  · rw [hnone, List.map_nil, List.append_nil]
    exact hevents

end

/-- The first tick ends a timed pass. The line stays high after it, or not; in between somebody
writes to the device past the compass. -/
theorem repeated_tick_idle_after_pass :
    let compass : Compass := { Compass.ofOffset {} .zero with
      phase := .calibrating, envelope := .seeded ⟨300, -2, 7⟩, timedFrom := some 0 }
    let board (sticky : Bool) : Bench :=
      { Bench.measure ⟨5, 400, -9⟩ {} with sticky := sticky }
    let first (sticky : Bool) : Outcome (Rig Bench (EventQueue 4)) Refusal Answer :=
      (Rig.perform .idleTick).run ⟨board sticky, 20000, some (compass, .empty)⟩
    let waiting (sticky : Bool) : Rig Bench (EventQueue 4) :=
      { (first sticky).state with board := (first sticky).state.board.poke 0x11 0x80 }
    let second (sticky : Bool) := (Rig.perform .idleTick).run (waiting sticky)
    (first true).journal.events = [⟨5, .calibrationEnd⟩] ∧
      (waiting true).board.dataReady = true ∧ (waiting false).board.dataReady = false ∧
      ∀ sticky, (second sticky).state.running = (first sticky).state.running ∧
        registers (second sticky).state.board = registers (waiting sticky).board ∧
        (second sticky).journal.notices = [] ∧ (second sticky).journal.events = [] := by
  intro compass board first waiting second
  have houtput (sticky : Bool) : (registers (waiting sticky).board).sampleAt .output =
      (registers (first sticky).state.board).sampleAt .output := by
    cases sticky <;> decide
  have hline (sticky : Bool) : Board.dataReady (board sticky) = .ok true := rfl
  have hpin (sticky : Bool) (fault : PinFault) :
      Board.dataReady (waiting sticky).board ≠ .error fault := by
    cases sticky <;> cases fault <;> decide
  have hfirst (sticky : Bool) : (first sticky).journal.Clean :=
    Journal.firstFault_eq_none.mp (by cases sticky <;> decide)
  have hsecond (sticky : Bool) : (second sticky).journal.Clean :=
    Journal.firstFault_eq_none.mp (by cases sticky <;> decide)
  refine ⟨by decide, by decide, by decide, fun sticky => ?_⟩
  with_reducible
    obtain ⟨-, hrunning, -, hregisters, hsilent⟩ :=
      repeated_tick_idle compass (EventQueue.empty : EventQueue 4) (board sticky) 20000
        (Bench.poke 0x11 0x80) (houtput sticky) (fun _ => .inl (hline sticky)) (hpin sticky)
        (hfirst sticky) (hsecond sticky)
    exact ⟨hrunning, hregisters, hsilent⟩

end Magnetometer
