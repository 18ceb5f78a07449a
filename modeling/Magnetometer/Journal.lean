import Magnetometer.Notice

/-!
# Journals

What an operation does besides changing its state is kept in a journal, in the order in which it
happened: the transactions it makes on the bus, the notices it gives and the events it publishes.
-/

namespace Magnetometer

/-- Something that happened. -/
inductive Entry
  | transaction (t : Transaction)
  | notice (n : Notice)
  | event (e : Event)
  deriving DecidableEq

namespace Entry

def transaction? : Entry → Option Transaction
  | .transaction t => some t
  | _ => none

def notice? : Entry → Option Notice
  | .notice n => some n
  | _ => none

def event? : Entry → Option Event
  | .event e => some e
  | _ => none

end Entry

/-- What happened, the earliest first. -/
abbrev Journal := List Entry

namespace Journal

def transactions (j : Journal) : List Transaction := j.filterMap Entry.transaction?

def notices (j : Journal) : List Notice := j.filterMap Entry.notice?

def events (j : Journal) : List Event := j.filterMap Entry.event?

@[simp] theorem transactions_append (j k : Journal) :
    transactions (j ++ k) = transactions j ++ transactions k :=
  List.filterMap_append

@[simp] theorem notices_append (j k : Journal) : notices (j ++ k) = notices j ++ notices k :=
  List.filterMap_append

@[simp] theorem events_append (j k : Journal) : events (j ++ k) = events j ++ events k :=
  List.filterMap_append

end Journal

end Magnetometer
