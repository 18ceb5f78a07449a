import Magnetometer.Proofs.Encoding
import Magnetometer.Proofs.Storing

/-!
# Ticks, all or nothing

A tick asks for the level of the data-ready line and then fetches three words, and each of these may
fail. The compass hears of a reading only when all of it is there. What fails after that is the
storing of the offset at the end of a pass, and then the pass has ended all the same. So a tick that
reports a failure has either done nothing to the compass or all there was to do.

What the line tells afterwards depends on the first word alone: it is with its first byte that a
reading counts as taken. If a later word fails, the reading is lost.

Main statement: `tick_all_or_nothing`.
-/

namespace Magnetometer

open RegisterDevice (registers)
open SteadyDevice (announced sticky)

/-! ## The words of a reading -/

/-- Of the axes in order, the first one that is not dealt with is x, or x has been dealt with. -/
theorem Axis.all_eq_append {before after : List Axis} {axis : Axis}
    (h : all = before ++ axis :: after) :
    (before = [] ∧ axis = .x) ∨ ∃ rest, before = .x :: rest ∧ axis ≠ .x := by
  cases before with
  | nil =>
    rw [List.nil_append] at h
    exact .inl ⟨rfl, (List.cons.inj h).1.symm⟩
  | cons first rest =>
    obtain ⟨rfl, hrest⟩ := List.cons.inj h
    refine .inr ⟨rest, rfl, ?_⟩
    rintro rfl
    have hmem : Axis.x ∈ [Axis.y, Axis.z] := by
      rw [hrest]
      exact List.mem_append_right _ List.mem_cons_self
    exact absurd hmem (by decide)

namespace Sensor

variable {β : Type}

/-- An attempt to fetch the word of an axis, and how it failed if it did. -/
def fetchOf (sensor : Sensor) (fault : Option Fault) (axis : Axis) : Entry :=
  .transaction ⟨sensor.address, [.write [(Register.output axis .high).address], .read 2], fault⟩

/-- The words of a reading are fetched in order, all of them or up to the first that fails. -/
theorem journal_readSample [Bus β] (sensor : Sensor) (b : β) :
    ((∃ sample, (sensor.readSample.run b).result = .ok sample) ∧
        (sensor.readSample.run b).journal = Axis.all.map (sensor.fetchOf none)) ∨
      ∃ fetched axis missed fault, Axis.all = fetched ++ axis :: missed ∧
        (sensor.readSample.run b).result = .error (.bus fault) ∧
        (sensor.readSample.run b).journal =
          fetched.map (sensor.fetchOf none) ++ [sensor.fetchOf (some fault) axis] := by
  have hjournal := Journal.eq_map_transactions (sensor.entries_readAxes .output b)
  rcases (sensor.follows_readAxes .output b).of_map with
    ⟨sample, hok, hmade⟩ | ⟨fetched, axis, missed, fault, hsplit, hfailed, hmade⟩
  · rw [hmade, List.map_map] at hjournal
    exact .inl ⟨⟨sample, hok⟩, hjournal⟩
  · rw [hmade, List.map_append, List.map_map] at hjournal
    exact .inr ⟨fetched, axis, missed, fault, hsplit, hfailed, hjournal⟩

end Sensor

/-! ## The reading and the compass -/

namespace Compass

theorem observe_eq (s : Sample) (c : Compass) :
    c.observe s =
      { c with
        sample := s
        envelope := if c.phase = .calibrating then c.envelope.widen s else c.envelope } := by
  obtain ⟨id, sensor, period, phase, offset, sample, envelope, timedFrom⟩ := c
  cases phase <;> rfl

/-- Whether a pass is over has nothing to do with what is read. -/
theorem passOver_observe (now : UInt64) (s : Sample) (c : Compass) :
    (c.observe s).passOver now = c.passOver now := by
  rw [observe_eq]
  rfl

end Compass

namespace Station

section

variable {β : Type} [Board β] {now : UInt64} {s : Station β}

/-- A reading that is not there as a whole does not reach the compass. -/
theorem run_idleTick_of_error (hready : Board.dataReady s.board = .ok true) {e : Error}
    (h : s.fetched.result = .error e) :
    (idleTick now).run s = ⟨.error e, ⟨s.compass, s.fetched.state⟩, s.fetched.journal⟩ := by
  rw [run_idleTick, hready]
  dsimp only
  rw [h]

theorem run_idleTick_of_ok (hready : Board.dataReady s.board = .ok true) {sample : Sample}
    (h : s.fetched.result = .ok sample) :
    (idleTick now).run s =
      if (s.compass.observe sample).passOver now then
        let ended := finishCalibration.run ⟨s.compass.observe sample, s.fetched.state⟩
        ⟨ended.result, ended.state, s.fetched.journal ++ ended.journal⟩
      else ⟨.ok (), ⟨s.compass.observe sample, s.fetched.state⟩, s.fetched.journal⟩ := by
  rw [run_idleTick, hready]
  dsimp only
  rw [h]

end

/-- Ending a pass that is running: what is reported is how the sending of the bytes went. -/
theorem run_finishCalibration_of_running {β : Type} [Bus β] {s : Station β}
    (h : s.compass.phase = .calibrating) :
    let sent := s.compass.sensor.storeEach
      (Sensor.offsetBytes s.compass.envelope.midpoint) s.board
    finishCalibration.run s =
      ⟨Sensor.verdict sent.1, ⟨s.compass.settle, sent.2⟩,
        sent.1.map .transaction ++
          [.notice (s.compass.settle.storedNotice (Sensor.verdict sent.1)),
            .event ⟨s.compass.id, .calibrationEnd⟩]⟩ := by
  intro sent
  rw [run_finishCalibration, stored, Sensor.run_writeOffset, if_pos h, List.nil_append]

/-- A tick that takes in no reading, although one is announced or the line cannot be read, leaves
the line high in two cases: it could not be read and was high, or the first word could not be
fetched. -/
theorem announced_idleTick {β : Type} [SteadyDevice β] (now : UInt64) {s : Station β}
    (hsticky : sticky s.board = false) (hlow : Board.dataReady s.board ≠ .ok false)
    (hnone : s.reading = none) :
    announced ((idleTick now).run s).state.board = true ↔
      (announced s.board = true ∧ ∃ fault, Board.dataReady s.board = .error fault) ∨
        ∃ fault, ((idleTick now).run s).journal =
          [s.compass.sensor.fetchOf (some fault) .x] := by
  rcases hready : Board.dataReady s.board with fault | _ | _
  · have hrun : (idleTick now).run s = ⟨.error (.dataReady fault), s, []⟩ := by
      rw [run_idleTick, hready]
    rw [hrun]
    refine ⟨fun h => .inl ⟨h, fault, rfl⟩, ?_⟩
    rintro (⟨h, -⟩ | ⟨_, h⟩)
    · exact h
    · cases h
  · exact absurd hready hlow
  · rcases s.compass.sensor.journal_readSample s.board with
      ⟨⟨sample, hok⟩, -⟩ | ⟨before, axis, missed, fault, hsplit, hfailed, hmade⟩
    · have hsome : s.reading = some sample := by
        rw [reading, hready]
        exact congrArg Except.toOption hok
      rw [hsome] at hnone
      cases hnone
    · have hhigh : announced s.board = true := SteadyDevice.announced_of_dataReady hready
      rw [run_idleTick_of_error hready hfailed]
      have hafter : announced s.fetched.state = !s.fetched.journal.takes := by
        rw [fetched, (s.compass.sensor.announces_readSample s.board).announced_eq, hhigh, hsticky,
          Bool.true_and, Bool.false_or]
      dsimp only
      rw [hafter]
      have hjournal : s.fetched.journal = _ := hmade
      rw [hjournal]
      rcases Axis.all_eq_append hsplit with ⟨rfl, rfl⟩ | ⟨rest, rfl, -⟩
      · exact ⟨fun _ => .inr ⟨fault, rfl⟩, fun _ => rfl⟩
      · -- The first word was fetched, so the reading is gone.
        constructor
        · intro h
          cases h
        · rintro (⟨-, _, h⟩ | ⟨_, h⟩)
          · cases h
          · cases h

end Station

/-- A tick does nothing if the line is low. If the line cannot be read, or one of the three words
cannot be fetched, it reports that and stops: the compass is as it was, and there is nothing in the
journal but the words fetched and the one that failed. Otherwise the compass has the whole reading,
which counts for a running pass. That is all, unless the reading comes when the pass is over. Then
the pass has ended: the compass is calibrated with the midpoint of all that was read, its six bytes
have been sent, and the end is published, once; and what the tick reports is how the sending
went.

On a steady device on which a reading is not sticky, a tick that stops leaves the line high exactly
if the line was high and could not be read, or the first word could not be fetched. -/
theorem tick_all_or_nothing {β γ : Type} [RegisterDevice β] [SteadyDevice γ] (now : UInt64) :
    (∀ s : Station β,
      let out := (Station.idleTick now).run s
      let sensor := s.compass.sensor
      let sample := (registers s.board).sampleAt .output
      let envelope := s.compass.envelope.widen sample
      let offset := envelope.midpoint
      let send (register value : UInt8) : UInt8 × List Part :=
        (sensor.address, [.write [register, value]])
      match Board.dataReady s.board with
      | .ok false => out = ⟨.ok (), s, []⟩
      | .error fault => out = ⟨.error (.dataReady fault), s, []⟩
      | .ok true =>
        (∃ fetched axis missed fault, Axis.all = fetched ++ axis :: missed ∧
          out.result = .error (.bus fault) ∧ out.state.compass = s.compass ∧
          out.journal =
            fetched.map (sensor.fetchOf none) ++ [sensor.fetchOf (some fault) axis]) ∨
        (s.compass.passOver now = false ∧ out.result = .ok () ∧
          out.journal = Axis.all.map (sensor.fetchOf none) ∧
          out.state.compass =
            { s.compass with
              sample := sample
              envelope :=
                if s.compass.phase = .calibrating then envelope else s.compass.envelope }) ∨
        (s.compass.passOver now = true ∧ s.compass.phase = .calibrating ∧
          out.state.compass =
            { s.compass with
              sample := sample
              envelope := envelope
              offset := offset
              phase := .calibrated
              timedFrom := none } ∧
          ∃ (made : List Transaction) (notice : Notice),
            out.result = Sensor.verdict made ∧
            out.journal =
              Axis.all.map (sensor.fetchOf none) ++
                (made.map .transaction ++
                  [.notice notice, .event ⟨s.compass.id, .calibrationEnd⟩]) ∧
            made.map (fun t => (t.address, t.parts)) =
              [send 0x0A (BigEndian.low offset.x), send 0x09 (BigEndian.high offset.x),
                send 0x0C (BigEndian.low offset.y), send 0x0B (BigEndian.high offset.y),
                send 0x0E (BigEndian.low offset.z), send 0x0D (BigEndian.high offset.z)])) ∧
    ∀ s : Station γ, sticky s.board = false → Board.dataReady s.board ≠ .ok false →
      s.reading = none →
      let out := (Station.idleTick now).run s
      (announced out.state.board = true ↔
        (announced s.board = true ∧ ∃ fault, Board.dataReady s.board = .error fault) ∨
          ∃ fault, out.journal = [s.compass.sensor.fetchOf (some fault) .x]) := by
  refine ⟨fun s => ?_, fun s hsticky hlow hnone => s.announced_idleTick now hsticky hlow hnone⟩
  intro out sensor sample envelope offset send
  rcases hready : Board.dataReady s.board with fault | _ | _
  · have hrun : out = _ := Station.run_idleTick now s
    rw [hrun, hready]
  · have hrun : out = _ := Station.run_idleTick now s
    rw [hrun, hready]
  · rcases sensor.journal_readSample s.board with
      ⟨⟨found, hok⟩, hmade⟩ | ⟨fetched, axis, missed, fault, hsplit, hfailed, hmade⟩
    · right
      have hclean : s.fetched.journal.Clean := (sensor.closed_reports.readAxes .output).clean hok
      obtain rfl : found = sample :=
        Except.ok.inj (hok.symm.trans (Sensor.readSample_of_clean hclean).1)
      have hrun : out = _ := Station.run_idleTick_of_ok hready hok
      rw [Compass.passOver_observe] at hrun
      by_cases hover : s.compass.passOver now = true
      · right
        have hphase : s.compass.phase = .calibrating := (Compass.passOver_iff.mp hover).1
        have hobserve : s.compass.observe sample =
            { s.compass with sample := sample, envelope := envelope } := by
          rw [Compass.observe_eq, if_pos hphase]
        let observed : Station β :=
          ⟨{ s.compass with sample := sample, envelope := envelope }, s.fetched.state⟩
        have hended := Station.run_finishCalibration_of_running (s := observed) hphase
        rw [if_pos hover, hobserve, hended] at hrun
        rw [hrun]
        refine ⟨hover, hphase, rfl, _, _, rfl, congrArg (· ++ _) hmade, ?_⟩
        exact sensor.storeEach_requests (Sensor.offsetBytes offset) s.fetched.state
      · left
        rw [if_neg hover, Compass.observe_eq] at hrun
        rw [hrun]
        exact ⟨Bool.eq_false_iff.mpr hover, rfl, hmade, rfl⟩
    · left
      have hrun : out = _ := Station.run_idleTick_of_error hready hfailed
      rw [hrun]
      exact ⟨fetched, axis, missed, fault, hsplit, rfl, rfl, hmade⟩

/-- The same reading is kept if its first word fails, and lost if its second word does. -/
theorem tick_all_or_nothing_on_failing_words :
    let board := Bench.measure ⟨5, 400, -9⟩ {}
    let kept : Station Bench := ⟨.ofOffset {} .zero, board.setReadFault 0x01 (some .overrun)⟩
    let lost : Station Bench := ⟨.ofOffset {} .zero, board.setReadFault 0x03 (some .bus)⟩
    announced ((Station.idleTick 7).run kept).state.board = true ∧
      announced ((Station.idleTick 7).run lost).state.board = false := by
  intro board kept lost
  obtain ⟨-, hline⟩ := tick_all_or_nothing (β := Bench) (γ := Bench) 7
  constructor
  · refine (hline kept rfl nofun (by decide)).mpr (.inr ⟨.overrun, ?_⟩)
    decide
  · refine Bool.eq_false_iff.mpr fun h => ?_
    rcases (hline lost rfl nofun (by decide)).mp h with ⟨-, fault, h⟩ | ⟨fault, h⟩
    · cases h
    · cases h

end Magnetometer
