import Magnetometer.Proofs.Operation

/-!
# Storing an offset

An offset is stored byte by byte, and no failure keeps the bytes after it from being tried.
`Sensor.storeEach` says what that comes to on any bus: every transaction with the fault it met, on
the bus as the earlier ones have left it. `verdict` is what is reported of them in the end.

The end of a pass hangs on nothing else. Whichever of the six bytes get through, and whether there
was a pass to end or not, the compass has its new offset, and says so.

Main statements: `run_writeOffset`, `finish_always_completes`.
-/

namespace Magnetometer

namespace Sensor

variable {β : Type} [Bus β]

/-- Puts bytes into registers one after the other, whatever fails: the transactions that are made,
and the bus afterwards. -/
def storeEach (sensor : Sensor) : List (UInt8 × UInt8) → β → List Transaction × β
  | [], b => ([], b)
  | p :: rest, b =>
    let answered := Bus.transact sensor.address [.write [p.1, p.2]] b
    let others := storeEach sensor rest answered.2
    (⟨sensor.address, [.write [p.1, p.2]], answered.1.fault⟩ :: others.1, others.2)

/-- What is reported of transactions all of which were made: the fault of the first one that
failed. -/
def verdict (made : List Transaction) : Except Error Unit :=
  match made.findSome? Transaction.fault with
  | none => .ok ()
  | some fault => .error (.bus fault)

theorem verdict_cons (t : Transaction) (made : List Transaction) :
    verdict (t :: made) =
      match t.fault with
      | none => verdict made
      | some fault => .error (.bus fault) := by
  unfold verdict
  rw [List.findSome?_cons]
  cases t.fault <;> rfl

theorem verdict_eq_ok {made : List Transaction} :
    verdict made = .ok () ↔ ∀ t ∈ made, t.fault = none := by
  rw [← List.findSome?_eq_none_iff, verdict]
  cases made.findSome? Transaction.fault with
  | none => exact ⟨fun _ => rfl, fun _ => rfl⟩
  | some fault => exact ⟨nofun, nofun⟩

/-- Every byte has its transaction, whatever comes of the others. -/
theorem storeEach_requests (sensor : Sensor) (bytes : List (UInt8 × UInt8)) (b : β) :
    (sensor.storeEach bytes b).1.map (fun t => (t.address, t.parts)) =
      bytes.map fun p => (sensor.address, [.write [p.1, p.2]]) := by
  induction bytes generalizing b with
  | nil => rfl
  | cons p bytes ih => rw [storeEach, List.map_cons, List.map_cons, ih]

theorem run_tryAll_writeRegister (sensor : Sensor) (bytes : List (UInt8 × UInt8)) (b : β) :
    (Action.tryAll (fun p : UInt8 × UInt8 => sensor.writeRegister p.1 p.2) bytes).run b =
      ⟨verdict (sensor.storeEach bytes b).1, (sensor.storeEach bytes b).2,
        (sensor.storeEach bytes b).1.map .transaction⟩ := by
  -- On the bytes still to be stored, wherever the earlier ones have left the bus.
  induction bytes generalizing b with
  | nil => rfl
  | cons p bytes ih =>
    rw [Action.run_tryAll_cons, run_writeRegister, ih, storeEach, verdict_cons]
    cases (Bus.transact sensor.address [.write [p.1, p.2]] b).1.fault <;> rfl

theorem run_writeOffset (sensor : Sensor) (offset : Sample) (b : β) :
    (sensor.writeOffset offset).run b =
      ⟨verdict (sensor.storeEach (offsetBytes offset) b).1,
        (sensor.storeEach (offsetBytes offset) b).2,
        (sensor.storeEach (offsetBytes offset) b).1.map .transaction⟩ :=
  sensor.run_tryAll_writeRegister (offsetBytes offset) b

end Sensor

namespace Station

variable {β : Type} [Bus β]

/-- On any bus and in any state of the compass, whether a pass is running or not, ending it goes
through. The compass is calibrated with the midpoint of its envelope, is not timed any more, and is
otherwise as before. Six bytes are sent, low before high on each axis, whichever of them fail.
Success is reported exactly if none did, and else the first failure. It is noted that there was no
pass, if there was none, and then how storing went; the end is published, once. -/
theorem finish_always_completes (s : Station β) :
    let out := finishCalibration.run s
    let offset := s.compass.envelope.midpoint
    let storing := s.compass.sensor.storeEach (Sensor.offsetBytes offset) s.board
    let send (register value : UInt8) : UInt8 × List Part :=
      (s.compass.sensor.address, [.write [register, value]])
    out.state.compass =
        { s.compass with offset := offset, phase := .calibrated, timedFrom := none } ∧
      out.state.board = storing.2 ∧
      storing.1.map (fun t => (t.address, t.parts)) =
        [send 0x0A (BigEndian.low offset.x), send 0x09 (BigEndian.high offset.x),
          send 0x0C (BigEndian.low offset.y), send 0x0B (BigEndian.high offset.y),
          send 0x0E (BigEndian.low offset.z), send 0x0D (BigEndian.high offset.z)] ∧
      out.result = Sensor.verdict storing.1 ∧
      (out.result = .ok () ↔ ∀ t ∈ storing.1, t.fault = none) ∧
      out.journal =
        (if s.compass.phase = .calibrating then []
          else [.notice (.endedWithoutPass s.compass.id)]) ++
        storing.1.map .transaction ++
        [.notice
            (match Sensor.verdict storing.1 with
            | .ok () => .calibrated s.compass.id offset
            | .error e => .notStored s.compass.id offset e),
          .event ⟨s.compass.id, .calibrationEnd⟩] := by
  intro out offset storing send
  have hstored : s.stored = ⟨Sensor.verdict storing.1, storing.2, storing.1.map .transaction⟩ :=
    s.compass.sensor.run_writeOffset offset s.board
  have hrun : out = _ := run_finishCalibration s
  rw [hstored] at hrun
  have hresult : out.result = Sensor.verdict storing.1 := by rw [hrun]
  refine ⟨?_, ?_, ?_, hresult, ?_, ?_⟩
  · rw [hrun]
    rfl
  · rw [hrun]
  · exact s.compass.sensor.storeEach_requests (Sensor.offsetBytes offset) s.board
  · rw [hresult]
    exact Sensor.verdict_eq_ok
  · rw [hrun]
    cases Sensor.verdict storing.1 <;> rfl

end Station

end Magnetometer
