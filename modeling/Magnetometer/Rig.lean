import Magnetometer.Command
import Magnetometer.EventSink

/-!
# Rigs

A `Rig` is a board with a clock, on which a compass may be running. The events that the compass
publishes go to a sink. A compass that is started while another is running takes over its sink;
a compass that cannot be started takes the sink with it.
-/

namespace Magnetometer

/-- A board with a clock, and the compass that runs on it with the sink for its events. -/
structure Rig (β κ : Type) where
  board : β
  clock : UInt64 := 0
  running : Option (Compass × κ) := none

namespace Rig

variable {β κ α : Type}

def compass : Action (Rig β κ) Refusal Compass where
  run rig :=
    match rig.running with
    | none => ⟨.error .noCompass, rig, []⟩
    | some (compass, _) => ⟨.ok compass, rig, []⟩

/-- Something done with the sink of the running compass. -/
def withSink (f : κ → α × κ) : Action (Rig β κ) Refusal α where
  run rig :=
    match rig.running with
    | none => ⟨.error .noCompass, rig, []⟩
    | some (compass, sink) =>
      ⟨.ok (f sink).1, { rig with running := some (compass, (f sink).2) }, []⟩

/-- Something done on the board by other means than the compass. -/
def onBoard (p : Action β Error α) : Action (Rig β κ) Refusal α :=
  .mapError .error (.within Rig.board (fun board rig => { rig with board := board }) p)

def adjust (f : β → β) : Action (Rig β κ) Refusal Unit :=
  .modify fun rig => { rig with board := f rig.board }

def setClock (now : UInt64) : Action (Rig β κ) Refusal Unit :=
  .modify fun rig => { rig with clock := now }

/-- Lets time pass; the clock stops at its last tick. -/
def advance (ticks : UInt64) : Action (Rig β κ) Refusal Unit :=
  .modify fun rig => { rig with clock := Ticks.saturatingAdd rig.clock ticks }

section

variable [EventSink κ]

def boot [Bus β] (settings : CompassSettings) : Action (Rig β κ) Refusal Unit where
  run rig :=
    let sink :=
      match rig.running with
      | none => EventSink.fresh
      | some (_, sink) => sink
    let out := (Compass.boot settings).run rig.board
    match out.result with
    | .error e => ⟨.error (.error e), { rig with board := out.state, running := none }, out.journal⟩
    | .ok compass =>
      ⟨.ok (), { rig with board := out.state, running := some (compass, sink) }, out.journal⟩

/-- Publishes an event in the name of the compass. -/
def publish (e : Event) : Action (Rig β κ) Refusal Unit where
  run rig :=
    match rig.running with
    | none => ⟨.error .noCompass, rig, []⟩
    | some (compass, sink) =>
      let accepted := EventSink.accept e sink
      ⟨.ok (), { rig with running := some (compass, accepted.1) },
        .event e :: accepted.2.map Entry.notice⟩

/-- Has the running compass carry out a command. The events it publishes go to the sink. -/
def perform [Board β] (command : Command) : Action (Rig β κ) Refusal Answer where
  run rig :=
    match rig.running with
    | none => ⟨.error .noCompass, rig, []⟩
    | some (compass, sink) =>
      let out := (command.perform rig.clock).run ⟨compass, rig.board⟩
      let accepted := EventSink.acceptAll out.journal.events sink
      ⟨out.result,
        { rig with board := out.state.board, running := some (out.state.compass, accepted.1) },
        out.journal ++ accepted.2.map Entry.notice⟩

end

end Rig

end Magnetometer
