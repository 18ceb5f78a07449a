import Magnetometer.Bench
import Magnetometer.Proofs.Deadline
import Magnetometer.Proofs.Parallel

/-!
# Lives without timed passes

What the clock shows counts for timed passes only. In a life in which no pass is timed the compass
keeps no moment, so no reading finds a pass over, whatever the clock shows and however long the
period is. So all of it goes the same way by any other clock, also one that runs backwards, and with
any other period. `Likeness.untimed` is this comparison, and that it is kept comes down to the one
place where a clock is looked at.

A pass that is not timed itself ends by no tick, also if there were timed passes before it: the
moment that a compass keeps is one of the running pass (`DeadlineInv`), and there is only one such
pass (`Pass.RunsIn.unique`).

Main statement: `untimed_lives_ignore_clock`.
-/

namespace Magnetometer

/-! ## Another period -/

namespace Compass

/-- The compass with another period. -/
def withPeriod (period : UInt64) (c : Compass) : Compass := { c with period := period }

theorem withPeriod_observe (period : UInt64) (s : Sample) (c : Compass) :
    (c.withPeriod period).observe s = (c.observe s).withPeriod period := by
  cases h : c.phase <;> simp only [observe, withPeriod, h]

theorem withPeriod_forget (period : UInt64) (c : Compass) :
    (c.withPeriod period).forget = c.forget.withPeriod period := by
  cases h : c.phase <;> simp only [forget, withPeriod, h]

theorem timedFrom_forget (c : Compass) : c.forget.timedFrom = c.timedFrom := by
  unfold forget
  split <;> rfl

/-- No moment is past a pass that is not timed. -/
theorem passOver_untimed {c : Compass} (h : c.timedFrom = none) (now : UInt64) :
    c.passOver now = false := by
  cases hover : c.passOver now with
  | false => rfl
  | true =>
    obtain ⟨-, start, htimed, -⟩ := passOver_iff.mp hover
    rw [h] at htimed
    cases htimed

/-- A start takes no notice of the period, but for keeping it. -/
theorem boot_withPeriod {β : Type} [Bus β] (settings : CompassSettings) (period : UInt64) :
    (boot { settings with period := period } : Action β Error Compass) =
      withPeriod period <$> boot settings := by
  rw [boot, boot]
  simp only [map_bind, map_pure]
  rfl

end Compass

def Station.withPeriod {β : Type} (period : UInt64) (s : Station β) : Station β :=
  ⟨s.compass.withPeriod period, s.board⟩

/-! ## The likeness -/

section

variable {β : Type}

/-- Two lives without timed passes, of which the second one goes by another clock and another
period. -/
def Likeness.untimed (period : UInt64) : Likeness β where
  moments _ _ := True
  commands command := command ≠ .startTimed
  compasses c c' := c' = c.withPeriod period ∧ c.timedFrom = none
  boards := Eq
  samples := Eq
  answers := Eq
  entries := Eq

theorem Likeness.kept_untimed [Board β] (period : UInt64) :
    (Likeness.untimed period : Likeness β).Kept where
  id := by
    rintro c _ ⟨rfl, -⟩
    rfl
  sensor := by
    rintro c _ ⟨rfl, -⟩
    rfl
  phase := by
    rintro c _ ⟨rfl, -⟩
    rfl
  degrees := by
    rintro c _ ⟨rfl, -⟩
    rfl
  passOver := by
    -- The one place where the clock would count.
    rintro now now' c _ - ⟨rfl, htimed⟩
    have htimed' : (c.withPeriod period).timedFrom = none := htimed
    rw [Compass.passOver_untimed htimed, Compass.passOver_untimed htimed']
  observe := by
    rintro c _ s _ ⟨rfl, htimed⟩ rfl
    exact ⟨Compass.withPeriod_observe period s c, (Compass.timedFrom_observe s c).trans htimed⟩
  beginPass := by
    rintro c _ ⟨rfl, htimed⟩
    exact ⟨rfl, htimed⟩
  timed hcommand := absurd rfl hcommand
  settle := by
    rintro c _ ⟨rfl, -⟩
    exact ⟨rfl, rfl⟩
  forget := by
    rintro c _ ⟨rfl, htimed⟩
    exact ⟨Compass.withPeriod_forget period c, c.timedFrom_forget.trans htimed⟩
  started := by
    rintro c _ ⟨rfl, -⟩
    rfl
  endedWithoutPass _ := rfl
  storedNotice := by
    rintro c _ r ⟨rfl, -⟩
    cases r <;> rfl
  event _ := rfl
  answer _ := rfl
  dataReady h := congrArg _ h
  readSample _ := .refl _
  writeOffset := by
    rintro sensor c _ ⟨rfl, -⟩
    exact .refl _
  clearOffset _ := .refl _
  whoAmI _ := .refl _
  temperature _ := .refl _
  command _ _ _ := .refl _

/-- Two steps that differ in what the clock shows, neither of which times a pass. -/
inductive Step.SameButClock : Step β → Step β → Prop
  | perform (now now' : UInt64) {command : Command} : command ≠ .startTimed →
    SameButClock (.perform now command) (.perform now' command)
  | change (f : β → β) : SameButClock (.change f) (.change f)

theorem Step.SameButClock.steps {s s' : Step β} (h : s.SameButClock s') {period : UInt64} :
    (Likeness.untimed period).Steps s s' := by
  cases h with
  | perform now now' hcommand => exact .perform True.intro hcommand
  | change f => exact .change fun b b' hb => congrArg f hb

theorem Station.eq_withPeriod {period : UInt64} {s s' : Station β}
    (h : (Likeness.untimed period).stations s s') : s' = s.withPeriod period := by
  obtain ⟨c, b⟩ := s
  obtain ⟨c', b'⟩ := s'
  obtain ⟨⟨hcompass, -⟩, hboard⟩ := h
  have hcompass : c' = c.withPeriod period := hcompass
  have hboard : b = b' := hboard
  rw [hcompass, ← hboard]
  rfl

section

variable [Board β]

/-- Two calls of which all comes out the same, except that the period is another one. -/
structure Call.SameButClock (period : UInt64) (call call' : Call β) : Prop where
  command : call'.command = call.command
  result : call'.outcome.result = call.outcome.result
  journal : call'.outcome.journal = call.outcome.journal
  after : call'.after = call.after.withPeriod period

/-- Two histories in which everything happens the same way, except that the period is another
one. -/
structure History.SameButClock (period : UInt64) (h h' : History β) : Prop where
  calls : List.Forall₂ (Call.SameButClock period) h.calls h'.calls
  journal : h'.journal = h.journal
  station : h'.station = h.station.withPeriod period

variable {period : UInt64}

theorem Call.sameButClock {call call' : Call β} (h : (Likeness.untimed period).Calls call call') :
    call.SameButClock period call' where
  command := h.command.symm
  result := h.outcome.result.eq.symm
  journal := (List.forall₂_eq_eq_eq ▸ h.outcome.journal : _ = _).symm
  after := Station.eq_withPeriod h.outcome.state

theorem History.sameButClock {h h' : History β} (hh : (Likeness.untimed period).Histories h h') :
    h.SameButClock period h' where
  calls := hh.calls.imp fun _ _ hcall => Call.sameButClock hcall
  journal := (List.forall₂_eq_eq_eq ▸ hh.journal : _ = _).symm
  station := Station.eq_withPeriod hh.station

theorem History.untimed_start? (settings : CompassSettings) (period : UInt64) (board : β) :
    Option.Rel (Likeness.untimed period).Histories (start? settings board)
      (start? { settings with period := period } board) := by
  have hmap : start? { settings with period := period } board =
      (start? settings board).map fun h => { h with station := h.station.withPeriod period } := by
    rw [start?, start?, Compass.boot_withPeriod, Action.run_map]
    cases ((Compass.boot settings).run board).result <;> rfl
  rw [hmap]
  cases hstart : start? settings board with
  | none => exact .none
  | some h =>
    obtain ⟨hcalls, -, -, offset, hcompass⟩ := start?_silent hstart
    have htimed : h.station.compass.timedFrom = none := by
      rw [hcompass]
      rfl
    refine .some ⟨?_, List.forall₂_same.mpr fun _ _ => rfl, ⟨rfl, htimed⟩, rfl⟩
    rw [hcalls]
    exact .nil

end

end

/-! ## The running pass -/

/-- No call since the one that began a pass begins another. -/
theorem Pass.RunsIn.eq_nil {β : Type} {pass : Pass β} {calls mid later : List (Call β)}
    {opening : Call β} (h : pass.RunsIn calls)
    (hsplit : pass.opening :: pass.later = mid ++ opening :: later)
    (hopening : opening.BeginsPass) : mid = [] := by
  cases mid with
  | nil => rfl
  | cons call mid =>
    have hlater : pass.later = mid ++ opening :: later := (List.cons.inj hsplit).2
    have hrunning : opening.before.compass.phase = .calibrating := by
      refine h.since opening ?_
      rw [hlater]
      exact List.mem_append_right _ List.mem_cons_self
    exact absurd hrunning hopening.2

/-- Only one pass is running in a list of calls. -/
theorem Pass.RunsIn.unique {β : Type} {pass pass' : Pass β} {calls : List (Call β)}
    (h : pass.RunsIn calls) (h' : pass'.RunsIn calls) : pass = pass' := by
  obtain ⟨earlier, opening, later⟩ := pass
  obtain ⟨earlier', opening', later'⟩ := pass'
  -- The one of the two that was begun first has the other one's beginning among its calls.
  rcases List.append_eq_append_iff.mp (h.split.symm.trans h'.split) with
    ⟨mid, hearlier, hlater⟩ | ⟨mid, hearlier, hlater⟩
  · obtain rfl := h.eq_nil hlater h'.begins
    obtain ⟨rfl, rfl⟩ := List.cons.inj hlater
    obtain rfl : earlier' = earlier := hearlier.trans (List.append_nil _)
    rfl
  · obtain rfl := h'.eq_nil hlater h.begins
    obtain ⟨rfl, rfl⟩ := List.cons.inj hlater
    obtain rfl : earlier = earlier' := hearlier.trans (List.append_nil _)
    rfl

theorem latestTiming_eq_none {β : Type} {calls : List (Call β)}
    (h : ∀ call ∈ calls, call.command ≠ .startTimed) : latestTiming calls = none := by
  have hnone : calls.filterMap Call.timing? = [] := by
    refine List.filterMap_eq_nil_iff.mpr fun call hcall => ?_
    rw [Call.timing?]
    split
    next hcommand => exact absurd hcommand (h call hcall)
    next => rfl
  rw [latestTiming, hnone]
  rfl

section

variable {β : Type} [Board β]

/-- No tick ends a pass that is not timed. -/
theorem History.not_endsPass_untimed {settings : CompassSettings} {board : β}
    {steps : List (Step β)} {h : History β} (run : run? settings board steps = some h)
    {pass : Pass β} (hruns : pass.RunsIn h.calls)
    (huntimed : ∀ call ∈ pass.opening :: pass.later, call.command ≠ .startTimed) (now : UInt64) :
    ¬ (h.next now .idleTick).EndsPass := by
  intro hends
  have hphase : h.station.compass.phase = .calibrating := hends.1
  obtain ⟨pass', hruns', htimed⟩ := (DeadlineInv.of_run run).running hphase
  rw [hruns'.unique hruns, latestTiming_eq_none huntimed] at htimed
  cases hread : h.station.reading with
  | none => exact Call.not_endsPass_of_no_reading rfl hread hends
  | some sample =>
    obtain ⟨start, hstart, -⟩ := (endsPass_of_reading now hread hphase).mp hends
    rw [htimed] at hstart
    cases hstart

/-- Two lives of a compass in which no pass is timed, from the same start and through the same
commands, changes and failures: whatever the clock shows in the one and in the other, and whatever
the periods are, every call has the same result, the same transactions, notices and events, and
leaves the same board and the same compass but for the period. And whether passes are timed at other
times or not, one that was begun untimed and is not timed later is ended by no tick. -/
theorem untimed_lives_ignore_clock (settings : CompassSettings) (period : UInt64) (board : β)
    {steps steps' : List (Step β)} (hsteps : List.Forall₂ Step.SameButClock steps steps') :
    (Compass.boot { settings with period := period } : Action β Error Compass) =
        Compass.withPeriod period <$> Compass.boot settings ∧
      Option.Rel (History.SameButClock period) (History.run? settings board steps)
        (History.run? { settings with period := period } board steps') ∧
      ∀ (others : List (Step β)) (h : History β), History.run? settings board others = some h →
        ∀ pass : Pass β, pass.RunsIn h.calls →
          (∀ call ∈ pass.opening :: pass.later, call.command ≠ .startTimed) →
          ∀ now, ¬ (h.next now .idleTick).EndsPass := by
  refine ⟨Compass.boot_withPeriod settings period, ?_, ?_⟩
  · have hstart := History.untimed_start? settings period board
    have hrun := (Likeness.kept_untimed period).run hstart (hsteps.imp fun _ _ hs => hs.steps)
    exact optionRel_imp (fun _ _ hh => History.sameButClock hh) hrun
  · intro others h run pass hruns huntimed now
    exact History.not_endsPass_untimed run hruns huntimed now

/-- A pass that is begun twice and of which some readings are missed, once while time stands nearly
still and once while it runs backwards from its last tick, with a period of no ticks at all. -/
theorem untimed_lives_ignore_clock_running_backwards :
    let steps : List (Step Bench) :=
      [.perform 0 .heading, .perform 1 .startCalibration, .change (Bench.measure ⟨40, -3, 7⟩),
        .perform 1 .idleTick, .change fun b => { b.measure ⟨9, 9, 9⟩ with outage := some .bus },
        .perform 2 .idleTick, .change fun b => { b with outage := none },
        .perform 2 .startCalibration, .perform 3 .idleTick]
    let steps' : List (Step Bench) :=
      [.perform 18446744073709551615 .heading, .perform 18446744073709551614 .startCalibration,
        .change (Bench.measure ⟨40, -3, 7⟩), .perform 900 .idleTick,
        .change fun b => { b.measure ⟨9, 9, 9⟩ with outage := some .bus },
        .perform 800 .idleTick, .change fun b => { b with outage := none },
        .perform 700 .startCalibration, .perform 0 .idleTick]
    ∃ h h' : History Bench, History.run? {} {} steps = some h ∧
      History.run? { ({} : CompassSettings) with period := 0 } {} steps' = some h' ∧
      List.Forall₂ Step.SameButClock steps steps' ∧
      h.station.compass.envelope = ⟨⟨0, -3, 0⟩, ⟨40, 9, 9⟩⟩ ∧
      h'.journal = h.journal ∧ h'.station = h.station.withPeriod 0 ∧
      ¬ (h.next 18446744073709551615 .idleTick).EndsPass := by
  intro steps steps'
  let h : History Bench := (History.run? {} {} steps).get rfl
  have run : History.run? {} ({} : Bench) steps = some h := rfl
  have run' : History.run? { ({} : CompassSettings) with period := 0 } ({} : Bench) steps' =
      some _ := rfl
  have hsteps : List.Forall₂ Step.SameButClock steps steps' :=
    .cons (.perform _ _ nofun) <| .cons (.perform _ _ nofun) <| .cons (.change _) <|
    .cons (.perform _ _ nofun) <| .cons (.change _) <| .cons (.perform _ _ nofun) <|
    .cons (.change _) <| .cons (.perform _ _ nofun) <| .cons (.perform _ _ nofun) .nil
  obtain ⟨-, hlives, hends⟩ := untimed_lives_ignore_clock {} 0 ({} : Bench) hsteps
  rw [run, run'] at hlives
  obtain ⟨-, hjournal, hstation⟩ := Option.rel_some_some.mp hlives
  refine ⟨h, _, run, run', hsteps, by decide, hjournal, hstation, ?_⟩
  obtain ⟨pass, hruns, -⟩ := (DeadlineInv.of_run run).running (by decide)
  have huntimed : ∀ call ∈ h.calls, call.command ≠ .startTimed := by decide
  refine hends steps h run pass hruns (fun call hcall => huntimed call ?_) _
  rw [hruns.split]
  exact List.mem_append_right _ hcall

end

end Magnetometer
