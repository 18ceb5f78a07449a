import Magnetometer.EventSink

/-!
# Event queues

A queue of fixed capacity between the compass and the loop of the application that handles its
events. When it is full, a new event is dropped, counted and reported; those pending are not
touched.

Main statements: `push_of_lt` and `push_of_le`, the two things that can happen to a new event.
-/

namespace Magnetometer

/-- Events waiting to be handled, the earliest first, and how many were lost.

The list stands for a double-ended queue of fixed capacity, which is taken to give events back in
the order in which they came in, and to refuse one exactly when it is full. Losses are counted there
in a machine word, with which the number here agrees as long as the word has not reached its
limit. -/
structure EventQueue (capacity : Nat) where
  pending : List Event
  dropped : Nat
  deriving DecidableEq

namespace EventQueue

variable {capacity : Nat}

def empty : EventQueue capacity := ⟨[], 0⟩

def length (q : EventQueue capacity) : Nat := q.pending.length

def isEmpty (q : EventQueue capacity) : Bool := q.pending.isEmpty

/-- The queue with a further event, or with one more lost if there is no room. -/
def push (e : Event) (q : EventQueue capacity) : EventQueue capacity × List Notice :=
  if q.length < capacity then ({ q with pending := q.pending ++ [e] }, [])
  else ({ q with dropped := q.dropped + 1 }, [.queueFull e])

/-- The event that has waited longest, and the queue without it. -/
def pop (q : EventQueue capacity) : Option Event × EventQueue capacity :=
  (q.pending.head?, { q with pending := q.pending.tail })

instance : EventSink (EventQueue capacity) := ⟨empty, push⟩

theorem push_of_lt {q : EventQueue capacity} (e : Event) (h : q.length < capacity) :
    q.push e = ({ q with pending := q.pending ++ [e] }, []) :=
  if_pos h

theorem push_of_le {q : EventQueue capacity} (e : Event) (h : capacity ≤ q.length) :
    q.push e = ({ q with dropped := q.dropped + 1 }, [.queueFull e]) :=
  if_neg (Nat.not_lt.mpr h)

end EventQueue

end Magnetometer
