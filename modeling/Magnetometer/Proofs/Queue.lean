import Mathlib.Data.List.Basic
import Magnetometer.EventQueue

/-!
# Queues in use

What a queue holds is always accounted for (`EventQueue.Accounts`): of the events published those
that found it full are lost, each with a warning, and the others come out in order. Whether an event
is lost depends on how many were waiting when it came in, so that number is written down beside it
(`EventSink.marks`, `Turnover.published`).

Main statement: `Turnover.lossy_fifo`.
-/

namespace Magnetometer

/-! ## What is kept and what is lost -/

namespace EventSink

/-- The events with how many were waiting in the sink when they came in. -/
def marks {κ : Type} [EventSink κ] (pending : κ → Nat) : List Event → κ → List (Event × Nat)
  | [], _ => []
  | e :: rest, sink => (e, pending sink) :: marks pending rest (accept e sink).1

theorem map_fst_marks {κ : Type} [EventSink κ] (pending : κ → Nat) :
    ∀ (es : List Event) (sink : κ), (marks pending es sink).map Prod.fst = es := by
  intro es
  induction es with
  | nil =>
    intro _
    rfl
  | cons e es ih =>
    intro sink
    rw [marks, List.map_cons, ih]

end EventSink

namespace EventQueue

/-- The events that found room in a queue. -/
def kept (capacity : Nat) (published : List (Event × Nat)) : List Event :=
  (published.filter fun mark => mark.2 ≠ capacity).map Prod.fst

/-- The events that found a queue full. -/
def lost (capacity : Nat) (published : List (Event × Nat)) : List Event :=
  (published.filter fun mark => mark.2 = capacity).map Prod.fst

variable {capacity : Nat}

theorem kept_append (published more : List (Event × Nat)) :
    kept capacity (published ++ more) = kept capacity published ++ kept capacity more := by
  rw [kept, List.filter_append, List.map_append]
  rfl

theorem lost_append (published more : List (Event × Nat)) :
    lost capacity (published ++ more) = lost capacity published ++ lost capacity more := by
  rw [lost, List.filter_append, List.map_append]
  rfl

theorem length_kept_add_length_lost (published : List (Event × Nat)) :
    (kept capacity published).length + (lost capacity published).length = published.length := by
  rw [kept, lost, List.length_map, List.length_map, Nat.add_comm]
  simp only [ne_eq, decide_not]
  exact (List.length_eq_length_filter_add _).symm

theorem pop_eq_none_iff (queue : EventQueue capacity) :
    queue.pop.1 = none ↔ queue.length = 0 :=
  List.head?_eq_none_iff.trans List.length_eq_zero_iff.symm

/-- What is in the queue, and what is not, is explained by what was published and taken out. -/
structure Accounts (queue : EventQueue capacity) (popped : List Event)
    (published : List (Event × Nat)) : Prop where
  fits : queue.length ≤ capacity
  marks : ∀ mark ∈ published, mark.2 ≤ capacity
  order : popped ++ queue.pending = kept capacity published
  dropped : queue.dropped = (lost capacity published).length

theorem accounts_empty : (empty : EventQueue capacity).Accounts [] [] :=
  ⟨Nat.zero_le _, nofun, rfl, rfl⟩

namespace Accounts

variable {queue : EventQueue capacity} {popped : List Event} {published : List (Event × Nat)}

theorem push (h : queue.Accounts popped published) (e : Event) :
    (queue.push e).1.Accounts popped (published ++ [(e, queue.length)]) ∧
      (queue.push e).2 = (lost capacity [(e, queue.length)]).map .queueFull := by
  have hmarks : ∀ mark ∈ published ++ [(e, queue.length)], mark.2 ≤ capacity := by
    intro mark hmark
    rcases List.mem_append.mp hmark with hmark | hmark
    · exact h.marks mark hmark
    · rw [List.mem_singleton.mp hmark]
      exact h.fits
  rcases Nat.lt_or_ge queue.length capacity with hroom | hfull
  · have hkept : kept capacity [(e, queue.length)] = [e] := by
      simp [kept, Nat.ne_of_lt hroom]
    have hlost : lost capacity [(e, queue.length)] = [] := by
      simp [lost, Nat.ne_of_lt hroom]
    rw [push_of_lt e hroom, hlost]
    refine ⟨⟨?_, hmarks, ?_, ?_⟩, rfl⟩
    · rw [length, List.length_append]
      exact hroom
    · rw [kept_append, hkept, ← h.order, List.append_assoc]
    · rw [lost_append, hlost, List.append_nil]
      exact h.dropped
  · have heq : queue.length = capacity := Nat.le_antisymm h.fits hfull
    have hkept : kept capacity [(e, queue.length)] = [] := by
      simp [kept, heq]
    have hlost : lost capacity [(e, queue.length)] = [e] := by
      simp [lost, heq]
    rw [push_of_le e hfull, hlost]
    refine ⟨⟨h.fits, hmarks, ?_, ?_⟩, rfl⟩
    · rw [kept_append, hkept, List.append_nil]
      exact h.order
    · rw [lost_append, hlost, List.length_append, ← h.dropped]
      rfl

theorem acceptAll (h : queue.Accounts popped published) (es : List Event) :
    (EventSink.acceptAll es queue).1.Accounts popped
        (published ++ EventSink.marks EventQueue.length es queue) ∧
      (EventSink.acceptAll es queue).2 =
        (lost capacity (EventSink.marks EventQueue.length es queue)).map .queueFull := by
  -- On the events still to come in, wherever the earlier ones have left the queue.
  induction es generalizing queue published with
  | nil => exact ⟨by rw [EventSink.marks, List.append_nil]; exact h, rfl⟩
  | cons e es ih =>
    obtain ⟨hfirst, hwarning⟩ := h.push e
    obtain ⟨hothers, hwarnings⟩ := ih hfirst
    have hmarks : EventSink.marks EventQueue.length (e :: es) queue =
        [(e, queue.length)] ++ EventSink.marks EventQueue.length es (queue.push e).1 := rfl
    rw [hmarks, ← List.append_assoc]
    refine ⟨hothers, ?_⟩
    rw [lost_append, List.map_append, ← hwarning, ← hwarnings]
    rfl

theorem pop (h : queue.Accounts popped published) :
    queue.pop.2.Accounts (popped ++ queue.pop.1.toList) published := by
  obtain ⟨fits, marks, order, dropped⟩ := h
  obtain ⟨pending, count⟩ := queue
  cases pending with
  | nil => exact ⟨fits, marks, by rw [← order]; exact List.append_nil _, dropped⟩
  | cons e pending =>
    refine ⟨Nat.le_of_succ_le fits, marks, ?_, dropped⟩
    rw [← order]
    exact List.append_assoc popped [e] pending

theorem kept_eq (h : queue.Accounts popped published) :
    kept capacity published =
      (published.filter fun mark => mark.2 < capacity).map Prod.fst := by
  refine congrArg (List.map Prod.fst) (List.filter_congr fun mark hmark => ?_)
  rw [decide_eq_decide]
  exact (Nat.lt_iff_le_and_ne.trans (and_iff_right (h.marks mark hmark))).symm

theorem lost_eq (h : queue.Accounts popped published) :
    lost capacity published =
      (published.filter fun mark => capacity ≤ mark.2).map Prod.fst := by
  refine congrArg (List.map Prod.fst) (List.filter_congr fun mark hmark => ?_)
  rw [decide_eq_decide]
  exact ⟨fun heq => Nat.le_of_eq heq.symm, fun hle => Nat.le_antisymm (h.marks mark hmark) hle⟩

theorem total (h : queue.Accounts popped published) :
    published.length = popped.length + queue.length + queue.dropped := by
  rw [length, ← List.length_append, h.order, h.dropped, length_kept_add_length_lost]

end Accounts

end EventQueue

/-! ## Any use of a queue -/

/-- What may be done with a queue. -/
inductive QueueUse
  | publish (e : Event)
  | pop

/-- The event that is published, if one is. -/
def QueueUse.event? : QueueUse → Option Event
  | .publish e => some e
  | .pop => none

/-- A queue in use, with what has gone into it and come out of it so far. -/
structure Turnover (capacity : Nat) where
  queue : EventQueue capacity
  /-- The events published, with how many were pending when they came in. -/
  published : List (Event × Nat)
  /-- What the pops returned. -/
  answers : List (Option Event)
  notices : List Notice

namespace Turnover

variable {capacity : Nat}

def start : Turnover capacity := ⟨.empty, [], [], []⟩

/-- The turnover after one more use. -/
def extend (t : Turnover capacity) : QueueUse → Turnover capacity
  | .publish e =>
    let out := EventSink.accept e t.queue
    ⟨out.1, t.published ++ [(e, t.queue.length)], t.answers, t.notices ++ out.2⟩
  | .pop =>
    let out := t.queue.pop
    ⟨out.2, t.published, t.answers ++ [out.1], t.notices⟩

/-- The events that came out. -/
def popped (t : Turnover capacity) : List Event := t.answers.filterMap id

/-- The queue is accounted for, and so is every warning. -/
structure Balanced (t : Turnover capacity) : Prop where
  accounts : t.queue.Accounts t.popped t.published
  notices : t.notices = (EventQueue.lost capacity t.published).map .queueFull

theorem balanced_start : (start : Turnover capacity).Balanced :=
  ⟨EventQueue.accounts_empty, rfl⟩

theorem Balanced.extend {t : Turnover capacity} (h : t.Balanced) (use : QueueUse) :
    (t.extend use).Balanced := by
  cases use with
  | publish e =>
    obtain ⟨haccounts, hwarning⟩ := h.accounts.push e
    refine ⟨haccounts, ?_⟩
    show t.notices ++ (t.queue.push e).2 = _
    rw [h.notices, hwarning, ← List.map_append, ← EventQueue.lost_append]
    rfl
  | pop =>
    have hpopped : (t.extend .pop).popped = t.popped ++ t.queue.pop.1.toList := by
      show (t.answers ++ [t.queue.pop.1]).filterMap id = _
      rw [List.filterMap_append]
      cases t.queue.pop.1 <;> rfl
    refine ⟨?_, h.notices⟩
    rw [hpopped]
    exact h.accounts.pop

theorem Balanced.foldl (uses : List QueueUse) :
    ∀ {t : Turnover capacity}, t.Balanced → (uses.foldl Turnover.extend t).Balanced := by
  induction uses with
  | nil => exact fun h => h
  | cons use uses ih => exact fun h => ih (h.extend use)

theorem map_fst_published (uses : List QueueUse) :
    ∀ t : Turnover capacity, (uses.foldl extend t).published.map Prod.fst =
      t.published.map Prod.fst ++ uses.filterMap QueueUse.event? := by
  induction uses with
  | nil => exact fun t => (List.append_nil _).symm
  | cons use uses ih =>
    intro t
    rw [List.foldl_cons, ih]
    cases use with
    | publish e =>
      show (t.published ++ [(e, t.queue.length)]).map Prod.fst ++ _ = _
      rw [List.map_append, List.append_assoc]
      rfl
    | pop => rfl

/-- After any publishing and popping that starts with an empty queue: no more is pending than there
is room for; what was popped and what is pending is, in order, what was published when less was
pending than there is room for; a pop comes back with nothing just if nothing is pending; and
everything published was popped, is pending, or was dropped, with one warning for each event that
was dropped and no other. -/
theorem lossy_fifo (capacity : Nat) (uses : List QueueUse) :
    let t : Turnover capacity := uses.foldl extend start
    let admitted := (t.published.filter fun mark => mark.2 < capacity).map Prod.fst
    let refused := (t.published.filter fun mark => capacity ≤ mark.2).map Prod.fst
    t.published.map Prod.fst = uses.filterMap QueueUse.event? ∧
      t.queue.length ≤ capacity ∧
      t.popped ++ t.queue.pending = admitted ∧
      (t.queue.pop.1 = none ↔ t.queue.length = 0) ∧
      t.published.length = t.popped.length + t.queue.length + t.queue.dropped ∧
      t.notices = refused.map .queueFull ∧
      t.notices.length = t.queue.dropped := by
  intro t admitted refused
  obtain ⟨haccounts, hnotices⟩ : t.Balanced := balanced_start.foldl uses
  have hrefused : refused = EventQueue.lost capacity t.published := haccounts.lost_eq.symm
  refine ⟨map_fst_published uses start, haccounts.fits, ?_, EventQueue.pop_eq_none_iff _,
    haccounts.total, ?_, ?_⟩
  · rw [haccounts.order, haccounts.kept_eq]
  · rw [hrefused]
    exact hnotices
  · rw [hnotices, List.length_map, haccounts.dropped]

/-- It is the newest event that is lost, and a pop makes room again. -/
example (a b c : Event) :
    let t : Turnover 1 := [.publish a, .publish b, .pop, .publish c].foldl extend start
    t.popped = [a] ∧ t.queue.pending = [c] ∧ t.notices = [.queueFull b] := ⟨rfl, rfl, rfl⟩

end Turnover

end Magnetometer
