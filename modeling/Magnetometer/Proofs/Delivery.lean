import Magnetometer.Rig
import Magnetometer.Proofs.Queue
import Magnetometer.Proofs.Traffic

/-!
# The delivery of events

A compass does not look at the sink that takes in its events, so what the sink makes of them has no
effect on it. `Session` is a run of a rig as it is seen from outside: what was done came to, what is
in the journal, what was taken out of the sink, and how many events were waiting there whenever
another was published. Two sinks are compared, a queue, for which `EventQueue.Accounts` accounts,
and a recorder that forgets nothing.

Main statement: `queue_refines_recorder`.
-/

namespace Magnetometer

/-! ## What a compass itself says -/

/-- Whether the entry is the warning of a sink that it has lost an event. -/
def Entry.isOverflow : Entry → Bool
  | .notice (.queueFull _) => true
  | _ => false

theorem Sensor.Traffic.isOverflow {sensor : Sensor} {writes : UInt8 → Prop} {e : Entry}
    (h : sensor.Traffic writes e) : e.isOverflow = false := by
  cases h with
  | store v fault _ => rfl
  | fetch r n fault => rfl
  | @report n hn =>
    cases n with
    | queueFull event => cases hn
    | _ => rfl

/-- The action gives no warning of lost events. -/
def Action.Unflooded {σ ε α : Type} (p : Action σ ε α) : Prop :=
  p.Entries fun e => e.isOverflow = false

namespace Station

variable {β ε α : Type}

theorem unflooded_compass? : (compass? : Action (Station β) ε Compass).Unflooded :=
  .of_silent fun _ => rfl

theorem unflooded_update (f : Compass → Compass) :
    (update f : Action (Station β) ε Unit).Unflooded :=
  .of_silent fun _ => rfl

theorem unflooded_ask {question : Sensor → Action β ε α}
    (h : ∀ sensor, ∃ writes, (question sensor).Entries (sensor.Traffic writes)) :
    (ask question).Unflooded := by
  intro s e he
  obtain ⟨writes, htraffic⟩ := h s.compass.sensor
  exact (htraffic s.board e he).isOverflow

theorem unflooded_heading :
    (heading : Action (Station β) Unavailable Nat).Unflooded := by
  refine .bind unflooded_compass? fun c => ?_
  cases c.phase with
  | calibrating => exact .fail _
  | uncalibrated => exact .bind (.publish rfl) fun _ => .fail _
  | calibrated => exact .pure _

theorem unflooded_startCalibration :
    (startCalibration : Action (Station β) ε Unit).Unflooded := by
  refine .bind unflooded_compass? fun c => ?_
  split
  · exact .bind (unflooded_update _) fun _ => .bind (.log rfl) fun _ => .publish rfl
  · exact .pure ()

theorem unflooded_finishCalibration [Bus β] :
    (finishCalibration : Action (Station β) Error Unit).Unflooded := by
  have hremark : (remarkNoPass : Action (Station β) Error Unit).Unflooded := by
    refine .bind unflooded_compass? fun c => ?_
    split
    · exact .log rfl
    · exact .pure ()
  refine .bind hremark fun _ => .bind (unflooded_update _) fun _ => ?_
  refine .bind unflooded_compass? fun c => ?_
  refine .bind (unflooded_ask fun sensor => ⟨OffsetAddress, ?_⟩).attempt fun stored => ?_
  · exact (sensor.closed_entries _).writeOffset c.offset fun _ hr => hr
  · have hnotice : Entry.isOverflow (.notice (c.storedNotice stored)) = false := by
      cases stored <;> rfl
    exact .bind (.log hnotice) fun _ => .bind (.publish rfl) fun _ => .of_silent fun _ => rfl

theorem unflooded_clearCalibration [Bus β] :
    (clearCalibration : Action (Station β) Error Unit).Unflooded := by
  refine .bind (unflooded_ask fun sensor => ⟨fun _ => True, ?_⟩) fun _ => unflooded_update _
  exact (sensor.closed_entries _).apply _ fun _ _ => True.intro

variable [Board β]

theorem unflooded_idleTick (now : UInt64) :
    (idleTick now : Action (Station β) Error Unit).Unflooded := by
  refine .bind (.of_silent fun _ => rfl) fun needed => ?_
  split
  · refine .bind (unflooded_ask fun sensor => ⟨fun _ => False, ?_⟩) fun sample => ?_
    · exact (sensor.closed_entries _).readAxes _
    · refine .bind (unflooded_update _) fun _ => .bind unflooded_compass? fun c => ?_
      split
      · exact unflooded_finishCalibration
      · exact .pure ()
  · exact .pure ()

end Station

/-- No command gives a warning of lost events of itself. -/
theorem Command.unflooded_perform {β : Type} [Board β] (now : UInt64) (command : Command) :
    (command.perform now : Action (Station β) Refusal Answer).Unflooded := by
  cases command with
  | idleTick => exact .mapError (.map (Station.unflooded_idleTick now) _) _
  | heading => exact .mapError (.map Station.unflooded_heading _) _
  | startCalibration => exact .map Station.unflooded_startCalibration _
  | startTimed =>
    refine .map (.bind (Station.unflooded_update _) fun _ => ?_) _
    exact Station.unflooded_startCalibration
  | finishCalibration => exact .mapError (.map Station.unflooded_finishCalibration _) _
  | clearCalibration => exact .mapError (.map Station.unflooded_clearCalibration _) _
  | tickNeeded => exact .mapError (.map (.of_silent fun _ => rfl) _) _
  | whoAmI =>
    refine .mapError (.map (Station.unflooded_ask fun sensor => ⟨fun _ => False, ?_⟩) _) _
    exact (sensor.closed_entries _).readRegister _
  | temperature =>
    refine .mapError (.map (Station.unflooded_ask fun sensor => ⟨fun _ => False, ?_⟩) _) _
    exact (sensor.closed_entries _).readSigned _
  | sensor command =>
    exact .mapError (Station.unflooded_ask fun sensor => ⟨_, sensor.entries_perform command⟩) _

theorem Compass.unflooded_boot {β : Type} [Bus β] (settings : CompassSettings) :
    (boot settings : Action β Error Compass).Unflooded := by
  let sensor : Sensor := ⟨settings.address⟩
  have hquiet : ∀ {α : Type} {p : Action β Error α},
      p.Entries (sensor.Traffic fun _ => True) → p.Unflooded :=
    fun hp => hp.mono fun _ he => he.isOverflow
  refine .bind (hquiet ((sensor.closed_entries _).apply _ fun _ _ => True.intro)) fun _ => ?_
  refine .bind (hquiet ((sensor.closed_entries _).readAxes _)) fun _ => ?_
  exact .bind (.log rfl) fun _ => .pure _

/-! ## Sessions -/

/-- How events are taken out of a sink, and how many wait in it. -/
structure Tap (κ : Type) where
  take : κ → Option Event × κ
  pending : κ → Nat

def EventQueue.tap {capacity : Nat} : Tap (EventQueue capacity) := ⟨pop, length⟩

/-- Nothing is taken out of a recorder. -/
def Recorder.tap : Tap Recorder :=
  ⟨fun recorder => (none, recorder), fun recorder => recorder.events.length⟩

/-- What may be done while a compass runs on a rig. -/
inductive Deed (β : Type)
  /-- The compass carries out a command. -/
  | perform (command : Command)
  /-- An event is taken out of the sink. -/
  | take
  | setClock (now : UInt64)
  /-- The board is changed from outside. -/
  | change (f : β → β)

/-- A rig at work, seen from outside. -/
structure Session (β κ : Type) where
  rig : Rig β κ
  /-- What the commands came to, the first one first. -/
  results : List (Except Refusal Answer)
  journal : Journal
  /-- The events taken out of the sink. -/
  popped : List Event
  /-- The events published, with how many waited in the sink when they came in. -/
  published : List (Event × Nat)

namespace Session

variable {β κ : Type} [EventSink κ]

/-- The start of a compass on a board, with a fresh sink, unless it fails. -/
def start? [Bus β] (settings : CompassSettings) (board : β) (clock : UInt64) :
    Option (Session β κ) :=
  let out := (Rig.boot settings).run ⟨board, clock, none⟩
  match out.result with
  | .ok () => some ⟨out.state, [], out.journal, [], []⟩
  | .error _ => none

variable [Board β]

/-- The session after one more deed. -/
def extend (tap : Tap κ) (s : Session β κ) : Deed β → Session β κ
  | .perform command =>
    let out := (Rig.perform command).run s.rig
    let marks :=
      match s.rig.running with
      | none => []
      | some (_, sink) => EventSink.marks tap.pending out.journal.events sink
    ⟨out.state, s.results ++ [out.result], s.journal ++ out.journal, s.popped,
      s.published ++ marks⟩
  | .take =>
    let out := (Rig.withSink tap.take).run s.rig
    let popped :=
      match out.result with
      | .ok e => e.toList
      | .error _ => []
    { s with rig := out.state, popped := s.popped ++ popped }
  | .setClock now => { s with rig := ((Rig.setClock now).run s.rig).state }
  | .change f => { s with rig := ((Rig.adjust f).run s.rig).state }

/-- The session of a compass that is started on a board and with which some things are then done. -/
def run? (tap : Tap κ) (settings : CompassSettings) (board : β) (clock : UInt64)
    (deeds : List (Deed β)) : Option (Session β κ) :=
  (start? settings board clock).map (deeds.foldl (extend tap))

end Session

/-! ## One deed -/

section

variable {β κ : Type} {rig : Rig β κ} {compass : Compass} {sink : κ}

theorem Rig.run_withSink {α : Type} (h : rig.running = some (compass, sink)) (f : κ → α × κ) :
    (withSink f).run rig =
      ⟨.ok (f sink).1, { rig with running := some (compass, (f sink).2) }, []⟩ := by
  simp only [withSink, h]

theorem Session.extend_take [EventSink κ] [Board β] {s : Session β κ}
    (h : s.rig.running = some (compass, sink)) (tap : Tap κ) :
    s.extend tap .take =
      { s with
        rig := { s.rig with running := some (compass, (tap.take sink).2) }
        popped := s.popped ++ (tap.take sink).1.toList } := by
  rw [extend, Rig.run_withSink h]

theorem Journal.events_notices (ns : List Notice) : Journal.events (ns.map .notice) = [] := by
  refine List.filterMap_eq_nil_iff.mpr fun e he => ?_
  obtain ⟨n, -, rfl⟩ := List.mem_map.mp he
  rfl

variable [EventSink κ] [Board β]

theorem Rig.run_perform (h : rig.running = some (compass, sink)) (command : Command) :
    let out := (command.perform rig.clock).run ⟨compass, rig.board⟩
    let accepted := EventSink.acceptAll out.journal.events sink
    (perform command).run rig =
      ⟨out.result,
        { rig with board := out.state.board, running := some (out.state.compass, accepted.1) },
        out.journal ++ accepted.2.map Entry.notice⟩ := by
  simp only [perform, h]

theorem Session.extend_perform {s : Session β κ} (h : s.rig.running = some (compass, sink))
    (tap : Tap κ) (command : Command) :
    let out := (command.perform s.rig.clock).run ⟨compass, s.rig.board⟩
    let accepted := EventSink.acceptAll out.journal.events sink
    s.extend tap (.perform command) =
      ⟨⟨out.state.board, s.rig.clock, some (out.state.compass, accepted.1)⟩,
        s.results ++ [out.result], s.journal ++ (out.journal ++ accepted.2.map .notice), s.popped,
        s.published ++ EventSink.marks tap.pending out.journal.events sink⟩ := by
  intro out accepted
  have hevents : (out.journal ++ accepted.2.map Entry.notice).events = out.journal.events := by
    rw [Journal.events_append, Journal.events_notices, List.append_nil]
  rw [extend, Rig.run_perform h, h]
  dsimp only
  rw [hevents]

end

/-! ## The comparison -/

/-- A recorder keeps what it is told, and has nothing to say about it. -/
theorem Recorder.acceptAll (es : List Event) (recorder : Recorder) :
    EventSink.acceptAll es recorder = (⟨recorder.events ++ es⟩, []) := by
  induction es generalizing recorder with
  | nil => rw [EventSink.acceptAll, List.append_nil]
  | cons e es ih =>
    rw [EventSink.acceptAll, ih]
    exact congrArg (fun events => (Recorder.mk events, [])) (List.append_assoc _ [e] es)

namespace Journal

/-- The journal without the warnings of lost events. -/
def withoutOverflows (j : Journal) : Journal := j.filter fun e => !e.isOverflow

/-- The warnings of lost events in a journal. -/
def overflows (j : Journal) : Journal := j.filter Entry.isOverflow

theorem withoutOverflows_append (j k : Journal) :
    (j ++ k).withoutOverflows = j.withoutOverflows ++ k.withoutOverflows :=
  List.filter_append j k

theorem overflows_append (j k : Journal) : (j ++ k).overflows = j.overflows ++ k.overflows :=
  List.filter_append j k

theorem overflows_of_unflooded {j : Journal} (h : ∀ e ∈ j, e.isOverflow = false) :
    j.withoutOverflows = j ∧ j.overflows = [] := by
  constructor
  · exact List.filter_eq_self.mpr fun e he => by rw [h e he]; rfl
  · exact List.filter_eq_nil_iff.mpr fun e he => by rw [h e he]; exact nofun

theorem overflows_of_warnings (es : List Event) :
    withoutOverflows (es.map fun e => .notice (.queueFull e)) = [] ∧
      overflows (es.map fun e => .notice (.queueFull e)) =
        es.map fun e => .notice (.queueFull e) := by
  constructor
  · refine List.filter_eq_nil_iff.mpr fun entry hentry => ?_
    obtain ⟨e, -, rfl⟩ := List.mem_map.mp hentry
    exact nofun
  · refine List.filter_eq_self.mpr fun entry hentry => ?_
    obtain ⟨e, -, rfl⟩ := List.mem_map.mp hentry
    rfl

end Journal

namespace Session

variable {β : Type} {capacity : Nat}

/-- A session with a queue has gone the same way as one with a recorder, and the queue has lost what
it had no room for, and nothing else. -/
structure Refines (s : Session β (EventQueue capacity)) (r : Session β Recorder) : Prop where
  results : s.results = r.results
  journal : s.journal.withoutOverflows = r.journal
  board : s.rig.board = r.rig.board
  clock : s.rig.clock = r.rig.clock
  warnings : s.journal.overflows =
    (EventQueue.lost capacity s.published).map fun e => .notice (.queueFull e)
  running : ∃ compass queue, s.rig.running = some (compass, queue) ∧
    r.rig.running = some (compass, ⟨s.published.map Prod.fst⟩) ∧
    queue.Accounts s.popped s.published

variable {s : Session β (EventQueue capacity)} {r : Session β Recorder}

theorem refines_start (capacity : Nat) [Bus β] (settings : CompassSettings) (board : β)
    (clock : UInt64) :
    Option.Rel Refines (start? settings board clock : Option (Session β (EventQueue capacity)))
      (start? settings board clock) := by
  obtain ⟨hown, hnone⟩ :=
    Journal.overflows_of_unflooded (Compass.unflooded_boot settings board)
  unfold start? Rig.boot
  dsimp only
  cases h : ((Compass.boot settings).run board).result with
  | error e => exact .none
  | ok compass =>
    exact .some ⟨rfl, hown, rfl, rfl, hnone, compass, .empty, rfl, rfl, EventQueue.accounts_empty⟩

variable [Board β]

theorem Refines.perform (h : s.Refines r) (command : Command) :
    (s.extend EventQueue.tap (.perform command)).Refines
      (r.extend Recorder.tap (.perform command)) := by
  obtain ⟨hresults, hjournal, hboard, hclock, hwarnings, compass, queue, hs, hr, haccounts⟩ := h
  obtain ⟨hown, hnone⟩ := Journal.overflows_of_unflooded
    (Command.unflooded_perform s.rig.clock command ⟨compass, s.rig.board⟩)
  rw [extend_perform hs, extend_perform hr, ← hboard, ← hclock, Recorder.acceptAll]
  generalize (command.perform s.rig.clock).run ⟨compass, s.rig.board⟩ = out at hown hnone ⊢
  -- To the entries of the command itself the queue may add warnings, and the recorder adds nothing.
  obtain ⟨haccounts', hnotices⟩ := haccounts.acceptAll out.journal.events
  obtain ⟨hquiet, hloud⟩ := Journal.overflows_of_warnings
    (EventQueue.lost capacity (EventSink.marks EventQueue.length out.journal.events queue))
  rw [hnotices, List.map_map]
  refine ⟨congrArg (· ++ [out.result]) hresults, ?_, rfl, rfl, ?_, out.state.compass, _, rfl, ?_,
    haccounts'⟩
  · show (s.journal ++ (out.journal ++ _)).withoutOverflows = r.journal ++ (out.journal ++ [])
    rw [Journal.withoutOverflows_append, Journal.withoutOverflows_append, hjournal, hown]
    exact congrArg (fun j => r.journal ++ (out.journal ++ j)) hquiet
  · show (s.journal ++ (out.journal ++ _)).overflows = _
    rw [Journal.overflows_append, Journal.overflows_append, hwarnings, hnone,
      EventQueue.lost_append, List.map_append]
    exact congrArg _ hloud
  · rw [List.map_append, EventSink.map_fst_marks]

theorem Refines.extend (h : s.Refines r) (deed : Deed β) :
    (s.extend EventQueue.tap deed).Refines (r.extend Recorder.tap deed) := by
  cases deed with
  | perform command => exact h.perform command
  | take =>
    obtain ⟨hresults, hjournal, hboard, hclock, hwarnings, compass, queue, hs, hr, haccounts⟩ := h
    rw [extend_take hs, extend_take hr]
    exact ⟨hresults, hjournal, hboard, hclock, hwarnings, compass, _, rfl, rfl, haccounts.pop⟩
  | setClock now => exact { h with clock := rfl }
  | change f => exact { h with board := congrArg f h.board }

theorem Refines.foldl (deeds : List (Deed β)) :
    ∀ {s : Session β (EventQueue capacity)} {r : Session β Recorder}, s.Refines r →
      (deeds.foldl (Session.extend EventQueue.tap) s).Refines
        (deeds.foldl (Session.extend Recorder.tap) r) := by
  induction deeds with
  | nil => exact fun h => h
  | cons deed deeds ih => exact fun h => ih (h.extend deed)

/-- A compass started and put to work with a queue for its events, out of which events are taken at
any time, and another with a recorder, on the same board and by the same clock. Either neither comes
up, or both do, and then they agree after every deed: in what the commands come to, in the compass,
the board, and the journal, in which the queue has nothing of its own but warnings. What was taken
out of the queue and what waits in it is, in order, what the recorder holds, without the events that
came in when the queue was full; of these there are as many as it counts, and one warning for
each. -/
theorem queue_refines_recorder (capacity : Nat) (settings : CompassSettings) (board : β)
    (clock : UInt64) (deeds : List (Deed β)) :
    Option.Rel Refines
      (run? EventQueue.tap settings board clock deeds : Option (Session β (EventQueue capacity)))
      (run? Recorder.tap settings board clock deeds) := by
  have hstart := refines_start capacity settings board clock
  unfold run?
  generalize (start? settings board clock : Option (Session β (EventQueue capacity))) = queueing
    at hstart ⊢
  generalize (start? settings board clock : Option (Session β Recorder)) = recording at hstart ⊢
  cases hstart with
  | none => exact .none
  | some h => exact .some (.foldl deeds h)

end Session

end Magnetometer
