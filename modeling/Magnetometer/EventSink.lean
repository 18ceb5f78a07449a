import Magnetometer.Journal

/-!
# Event sinks

A sink takes in the events that a compass publishes. It may have something to say about them, such
as that it had to drop one.
-/

namespace Magnetometer

/-- What can take in events. -/
class EventSink (κ : Type) where
  fresh : κ
  /-- The sink with a further event, and what it has to say about it. -/
  accept : Event → κ → κ × List Notice

namespace EventSink

variable {κ : Type} [EventSink κ]

/-- The sink with further events, the earliest first, and what it has to say about them. -/
def acceptAll : List Event → κ → κ × List Notice
  | [], sink => (sink, [])
  | e :: rest, sink =>
    let first := accept e sink
    let others := acceptAll rest first.1
    (others.1, first.2 ++ others.2)

/-- Everything is discarded. -/
instance : EventSink Unit := ⟨(), fun _ sink => (sink, [])⟩

end EventSink

/-- A sink that keeps every event, the earliest first. -/
structure Recorder where
  events : List Event
  deriving DecidableEq

namespace Recorder

instance : EventSink Recorder := ⟨⟨[]⟩, fun e recorder => (⟨recorder.events ++ [e]⟩, [])⟩

/-- The events kept, and the recorder without them. -/
def drain (r : Recorder) : List Event × Recorder := (r.events, ⟨[]⟩)

end Recorder

end Magnetometer
