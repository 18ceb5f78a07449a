import Magnetometer.Bench
import Magnetometer.Proofs.History

/-!
# The protocol of events

Who only listens to a compass has to be able to tell from its events whether a calibration pass is
running. `Running` is how: going by the last start or end among the occurrences so far. The protocol
is that while a pass is running by that rule nothing but its end is published (`Proper`); from it
follow the two orders that are ruled out, `end_of_proper`.

Each cue moves the compass, its events and its remarks together, in one of four ways (`Turn`). The
invariant `ProtocolInv` ties the phase to what was published and is kept by each of the four.

Main statement: `events_follow_passes`, which also counts starts against ends.
-/

namespace Magnetometer

/-- What was published, without the sources. -/
def Journal.occurrences (j : Journal) : List Occurrence := j.events.map Event.occurrence

theorem Journal.occurrences_append (j k : Journal) :
    (j ++ k).occurrences = j.occurrences ++ k.occurrences := by
  rw [occurrences, events_append, List.map_append]
  rfl

namespace Occurrence

/-! ## Sequences of occurrences -/

/-- The starts and ends of passes. -/
def bounds (os : List Occurrence) : List Occurrence := os.filter (· ≠ .calibrationRequired)

/-- A pass is running if the last that was heard of passes is a start. -/
def Running (os : List Occurrence) : Prop := (bounds os).getLast? = some .calibrationStart

/-- While a pass is running, nothing but its end occurs. -/
def Proper (os : List Occurrence) : Prop :=
  ∀ earlier o later, os = earlier ++ o :: later → Running earlier → o = .calibrationEnd

theorem running_required (os : List Occurrence) :
    Running (os ++ [.calibrationRequired]) ↔ Running os := by
  have h : bounds (os ++ [.calibrationRequired]) = bounds os := by
    unfold bounds
    rw [List.filter_append]
    exact List.append_nil _
  rw [Running, Running, h]

theorem running_start (os : List Occurrence) : Running (os ++ [.calibrationStart]) := by
  have h : bounds (os ++ [.calibrationStart]) = bounds os ++ [.calibrationStart] :=
    List.filter_append _ _
  rw [Running, h, List.getLast?_concat]

theorem not_running_end (os : List Occurrence) : ¬ Running (os ++ [.calibrationEnd]) := by
  have h : bounds (os ++ [.calibrationEnd]) = bounds os ++ [.calibrationEnd] :=
    List.filter_append _ _
  rw [Running, h, List.getLast?_concat]
  nofun

/-- After a start a pass is running until an end occurs. -/
theorem running_of_not_mem {mid : List Occurrence} (h : .calibrationEnd ∉ mid)
    (earlier : List Occurrence) : Running (earlier ++ .calibrationStart :: mid) := by
  have hall : ∀ o ∈ .calibrationStart :: bounds mid, o = .calibrationStart := by
    intro o ho
    rcases List.mem_cons.mp ho with rfl | ho
    · rfl
    · obtain ⟨hmem, hreq⟩ := List.mem_filter.mp ho
      cases o with
      | calibrationRequired => cases hreq
      | calibrationStart => rfl
      | calibrationEnd => exact absurd hmem h
  have hsplit : bounds (earlier ++ .calibrationStart :: mid) =
      bounds earlier ++ .calibrationStart :: bounds mid := List.filter_append _ _
  have hlast := List.getLast_mem (List.cons_ne_nil Occurrence.calibrationStart (bounds mid))
  rw [Running, hsplit, List.getLast?_append, List.getLast?_eq_some_getLast (List.cons_ne_nil _ _),
    hall _ hlast]
  rfl

/-- Between a start and anything that is not an end there is an end. -/
theorem end_of_proper {os earlier mid later : List Occurrence} {o : Occurrence} (h : Proper os)
    (hos : os = earlier ++ .calibrationStart :: (mid ++ o :: later)) (ho : o ≠ .calibrationEnd) :
    .calibrationEnd ∈ mid := by
  by_cases hmid : .calibrationEnd ∈ mid
  · exact hmid
  · have hrunning := running_of_not_mem hmid earlier
    have hsplit : os = (earlier ++ .calibrationStart :: mid) ++ o :: later := by
      rw [hos, List.append_assoc, List.cons_append]
    exact absurd (h _ o later hsplit hrunning) ho

theorem proper_nil : Proper [] := by
  intro earlier o later h
  exact absurd h.symm (List.append_ne_nil_of_right_ne_nil _ (List.cons_ne_nil o later))

theorem Proper.concat {os : List Occurrence} (h : Proper os) {o : Occurrence}
    (ho : Running os → o = .calibrationEnd) : Proper (os ++ [o]) := by
  intro earlier o' later hsplit hrunning
  -- Either the new occurrence is meant, or one of those before it.
  rcases List.eq_nil_or_concat later with rfl | ⟨later, last, rfl⟩
  · obtain ⟨rfl, heq⟩ := List.append_inj' hsplit rfl
    rw [← List.singleton_inj.mp heq]
    exact ho hrunning
  · have hsplit' : os ++ [o] = (earlier ++ o' :: later) ++ [last] := by
      rw [hsplit, List.concat_eq_append, List.append_assoc, List.cons_append]
    obtain ⟨hos, -⟩ := List.append_inj' hsplit' rfl
    exact h earlier o' later hos hrunning

end Occurrence

/-! ## What a cue does to the protocol -/

/-- How the phases before and after a cue, the events and the remarks go together. -/
inductive Turn (p p' : Phase) : List Occurrence → Nat → Prop
  | silent : (p' = .calibrating ↔ p = .calibrating) → Turn p p' [] 0
  | required : p ≠ .calibrating → p' ≠ .calibrating → Turn p p' [.calibrationRequired] 0
  | started : p ≠ .calibrating → p' = .calibrating → Turn p p' [.calibrationStart] 0
  | ended : p' ≠ .calibrating → Turn p p' [.calibrationEnd] (if p = .calibrating then 0 else 1)

namespace Compass

theorem turn_begun (c : Compass) :
    Turn c.phase c.begun.phase (if c.phase = .calibrating then [] else [.calibrationStart]) 0 := by
  by_cases h : c.phase = .calibrating
  · rw [if_pos h]
    exact .silent ⟨fun _ => h, fun _ => phase_begun c⟩
  · rw [if_neg h]
    exact .started h (phase_begun c)

theorem turn (c : Compass) (cue : Cue) :
    Turn c.phase (c.respond cue).phase (c.announce cue) (c.remarks cue) := by
  cases cue with
  | nothing => exact .silent Iff.rfl
  | reading sample now =>
    by_cases hover : (c.observe sample).passOver now = true
    · -- The period of a pass can only be over while the pass is running.
      have hrunning : c.phase = .calibrating := by
        rw [← phase_observe sample c]
        exact (passOver_iff.mp hover).1
      have hended := Turn.ended (p := c.phase) (phase_settle_ne (c.observe sample))
      rw [if_pos hrunning] at hended
      rw [respond, announce, if_pos hover, if_pos hover]
      exact hended
    · rw [respond, announce, if_neg hover, if_neg hover]
      exact .silent (by rw [phase_observe])
  | inquiry =>
    rw [announce]
    by_cases h : c.phase = .uncalibrated
    · have hphase : c.phase ≠ .calibrating := by
        rw [h]
        decide
      rw [if_pos h]
      exact .required hphase hphase
    · rw [if_neg h]
      exact .silent Iff.rfl
  | start => exact c.turn_begun
  | startTimed now => exact (c.timed now).turn_begun
  | finish => exact .ended (phase_settle_ne c)
  | cleared => exact .silent (phase_forget c)

end Compass

/-! ## The invariant -/

/-- What was published and remarked by a compass that is in a certain phase now. -/
structure ProtocolInv (p : Phase) (os : List Occurrence) (remarks : Nat) : Prop where
  proper : Occurrence.Proper os
  phase : p = .calibrating ↔ Occurrence.Running os
  count : os.count .calibrationEnd + (if p = .calibrating then 1 else 0) =
    os.count .calibrationStart + remarks

theorem ProtocolInv.init {p : Phase} (h : p ≠ .calibrating) : ProtocolInv p [] 0 where
  proper := Occurrence.proper_nil
  phase := ⟨fun hp => absurd hp h, nofun⟩
  count := by rw [if_neg h]; rfl

theorem ProtocolInv.turn {p p' : Phase} {os published : List Occurrence} {n m : Nat}
    (inv : ProtocolInv p os n) (h : Turn p p' published m) :
    ProtocolInv p' (os ++ published) (n + m) := by
  have hcount := inv.count
  cases h with
  | silent hphase =>
    rw [List.append_nil]
    refine ⟨inv.proper, hphase.trans inv.phase, ?_⟩
    simp only [hphase]
    exact hcount
  | required hp hp' =>
    have hidle : ¬ Occurrence.Running os := fun h => hp (inv.phase.mpr h)
    refine ⟨inv.proper.concat fun h => absurd h hidle, ?_, ?_⟩
    · rw [Occurrence.running_required]
      exact ⟨fun h => absurd h hp', fun h => absurd h hidle⟩
    · rw [if_neg hp] at hcount
      rw [if_neg hp', List.count_append, List.count_append]
      exact hcount
  | started hp hp' =>
    have hidle : ¬ Occurrence.Running os := fun h => hp (inv.phase.mpr h)
    refine ⟨inv.proper.concat fun h => absurd h hidle, ?_, ?_⟩
    · exact ⟨fun _ => Occurrence.running_start os, fun _ => hp'⟩
    · rw [if_neg hp] at hcount
      have hend : [Occurrence.calibrationStart].count .calibrationEnd = 0 := rfl
      have hstart : [Occurrence.calibrationStart].count .calibrationStart = 1 := rfl
      rw [if_pos hp', List.count_append, List.count_append, hend, hstart]
      omega
  | ended hp' =>
    refine ⟨inv.proper.concat fun _ => rfl, ?_, ?_⟩
    · exact ⟨fun h => absurd h hp', fun h => absurd h (Occurrence.not_running_end os)⟩
    · have hend : [Occurrence.calibrationEnd].count .calibrationEnd = 1 := rfl
      have hstart : [Occurrence.calibrationEnd].count .calibrationStart = 0 := rfl
      rw [if_neg hp', List.count_append, List.count_append, hend, hstart]
      -- An end makes up for the running pass, or else for the remark that there was none.
      by_cases hp : p = .calibrating
      · rw [if_pos hp] at hcount ⊢
        omega
      · rw [if_neg hp] at hcount ⊢
        omega

/-! ## Runs -/

theorem Cue.Explains.occurrences {cue : Cue} {c : Compass} {β ε α : Type}
    {out : Outcome (Station β) ε α} (h : cue.Explains c out) :
    out.journal.occurrences = c.announce cue := by
  rw [Journal.occurrences, h.events, List.map_map]
  exact List.map_id _

section

variable {β : Type} [Board β]

theorem Call.source_of_event (call : Call β) :
    ∀ e ∈ call.outcome.journal.events, e.source = call.before.compass.id := by
  intro e he
  rw [call.explained.events] at he
  obtain ⟨o, -, rfl⟩ := List.mem_map.mp he
  rfl

theorem ProtocolInv.of_run {settings : CompassSettings} {board : β} {steps : List (Step β)}
    {h : History β} (run : History.run? settings board steps = some h) :
    ProtocolInv h.station.compass.phase h.journal.occurrences h.journal.passlessEnds := by
  refine History.compass_induction
    (P := fun _ j c => ProtocolInv c.phase j.occurrences j.passlessEnds) run ?_ ?_
  · intro j offset hevents hremarks
    rw [Journal.occurrences, hevents, hremarks]
    exact ProtocolInv.init (Compass.phase_ofOffset_ne settings offset)
  · intro _ j call inv
    rw [Journal.occurrences_append, Journal.passlessEnds_append, call.explained.occurrences,
      call.explained.passlessEnds, call.compass_after]
    exact inv.turn (call.before.compass.turn call.cue)

theorem source_of_run {settings : CompassSettings} {board : β} {steps : List (Step β)}
    {h : History β} (run : History.run? settings board steps = some h) :
    ∀ e ∈ h.journal.events, e.source = settings.id := by
  have hids : h.station.compass.id = settings.id ∧
      ∀ e ∈ h.journal.events, e.source = settings.id := by
    refine History.compass_induction
      (P := fun _ j c => c.id = settings.id ∧ ∀ e ∈ j.events, e.source = settings.id) run ?_ ?_
    · intro j offset hevents _
      refine ⟨rfl, fun e he => ?_⟩
      rw [hevents] at he
      cases he
    · rintro _ j call ⟨hid, hsource⟩
      have hsetup := call.before.compass.setup_respond call.cue
      rw [call.compass_after, Journal.events_append]
      refine ⟨(congrArg Prod.fst hsetup).trans hid, fun e he => ?_⟩
      rcases List.mem_append.mp he with he | he
      · exact hsource e he
      · rw [call.source_of_event e he, hid]
  exact hids.2

/-- The events of a run all bear the number of the compass. The last start or end among them tells
whether a pass is running; after a start neither another start nor a requirement comes before an
end; and every end belongs to a start or to a remark that no pass was running. -/
theorem events_follow_passes {settings : CompassSettings} {board : β} {steps : List (Step β)}
    {h : History β} (run : History.run? settings board steps = some h) :
    (∀ e ∈ h.journal.events, e.source = settings.id) ∧
      (h.station.compass.phase = .calibrating ↔
        (h.journal.occurrences.filter (· ≠ .calibrationRequired)).getLast? =
          some .calibrationStart) ∧
      (∀ earlier mid later, h.journal.occurrences =
        earlier ++ .calibrationStart :: (mid ++ .calibrationStart :: later) →
          .calibrationEnd ∈ mid) ∧
      (∀ earlier mid later, h.journal.occurrences =
        earlier ++ .calibrationStart :: (mid ++ .calibrationRequired :: later) →
          .calibrationEnd ∈ mid) ∧
      h.journal.occurrences.count .calibrationEnd +
          (if h.station.compass.phase = .calibrating then 1 else 0) =
        h.journal.occurrences.count .calibrationStart + h.journal.passlessEnds := by
  have inv := ProtocolInv.of_run run
  refine ⟨source_of_run run, inv.phase, ?_, ?_, inv.count⟩
  · intro earlier mid later hsplit
    exact Occurrence.end_of_proper inv.proper hsplit nofun
  · intro earlier mid later hsplit
    exact Occurrence.end_of_proper inv.proper hsplit nofun

/-- A pass whose offset cannot be stored is ended twice, and after a clearing a second one is
begun. -/
theorem events_follow_two_passes :
    let steps : List (Step Bench) :=
      [.perform 0 .heading, .perform 1 .startTimed, .perform 2 .heading,
        .perform 3 .startCalibration, .change fun b => { b with writeFaults := fun _ => some .bus },
        .perform 4 .finishCalibration, .perform 5 .finishCalibration,
        .change fun b => { b with writeFaults := fun _ => none },
        .perform 6 .clearCalibration, .perform 7 .heading, .perform 8 .startCalibration]
    ∃ h : History Bench, History.run? { id := 9 } {} steps = some h ∧
      h.journal.occurrences =
        [.calibrationRequired, .calibrationStart, .calibrationEnd, .calibrationEnd,
          .calibrationRequired, .calibrationStart] ∧
      h.journal.passlessEnds = 1 ∧
      (∀ e ∈ h.journal.events, e.source = 9) ∧
      h.station.compass.phase = .calibrating ∧
      h.journal.occurrences.count .calibrationEnd +
          (if h.station.compass.phase = .calibrating then 1 else 0) =
        h.journal.occurrences.count .calibrationStart + h.journal.passlessEnds := by
  intro steps
  have run : History.run? { id := 9 } ({} : Bench) steps = some _ := rfl
  obtain ⟨hsource, hphase, -, -, hcount⟩ := events_follow_passes run
  exact ⟨_, run, by decide, by decide, hsource, hphase.mpr (by decide), hcount⟩

end

end Magnetometer
