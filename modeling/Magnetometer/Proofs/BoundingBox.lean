import Mathlib.Order.Bounds.Basic
import Magnetometer.Envelope

/-!
# Bounding boxes

An envelope that is widened by samples, one after the other, becomes the smallest box that holds all
of them and that reaches as far as the envelope did at first. On each axis it is known by what
bounds it: a value lies below the lower bound just if it lies below the one at first and below the
samples (`le_min_widenAll`), and likewise above (`max_widenAll_le`). Neither the order of the samples
nor how often one of them comes can be told from that, so they make no difference
(`widenAll_congr`).

An envelope may be upside down at first, with its lower bound above its upper one. The first sample
puts an end to that.

Main statement: `widenAll_smallest`.
-/

namespace Magnetometer

namespace Envelope

/-- The envelope widened by samples, one after the other. -/
def widenAll (e : Envelope) (samples : List Sample) : Envelope := samples.foldl widen e

theorem widenAll_cons (e : Envelope) (s : Sample) (samples : List Sample) :
    e.widenAll (s :: samples) = (e.widen s).widenAll samples := rfl

/-- The sample lies within the envelope on every axis. -/
def Holds (e : Envelope) (s : Sample) : Prop :=
  ∀ axis, e.min.along axis ≤ s.along axis ∧ s.along axis ≤ e.max.along axis

variable {axis : Axis} {v : Int16}

/-! ## What bounds a widened envelope -/

theorem le_min_widenAll {samples : List Sample} :
    ∀ {e : Envelope}, v ≤ (e.widenAll samples).min.along axis ↔
      v ≤ e.min.along axis ∧ ∀ s ∈ samples, v ≤ s.along axis := by
  induction samples with
  | nil => exact fun {_} => (and_iff_left nofun).symm
  | cons s samples ih =>
    intro e
    rw [widenAll_cons, ih, min_along_widen, Std.le_min_iff, List.forall_mem_cons, and_assoc]

theorem max_widenAll_le {samples : List Sample} :
    ∀ {e : Envelope}, (e.widenAll samples).max.along axis ≤ v ↔
      e.max.along axis ≤ v ∧ ∀ s ∈ samples, s.along axis ≤ v := by
  induction samples with
  | nil => exact fun {_} => (and_iff_left nofun).symm
  | cons s samples ih =>
    intro e
    rw [widenAll_cons, ih, max_along_widen, Std.max_le_iff, List.forall_mem_cons, and_assoc]

/-- Envelopes with the same bounds below and above are the same. -/
theorem ext_bounds {e f : Envelope}
    (hmin : ∀ axis v, v ≤ e.min.along axis ↔ v ≤ f.min.along axis)
    (hmax : ∀ axis v, e.max.along axis ≤ v ↔ f.max.along axis ≤ v) : e = f := by
  refine Envelope.ext (Sample.ext_axis fun axis => ?_) (Sample.ext_axis fun axis => ?_)
  · exact Int16.le_antisymm ((hmin axis _).mp (Int16.le_refl _))
      ((hmin axis _).mpr (Int16.le_refl _))
  · exact Int16.le_antisymm ((hmax axis _).mpr (Int16.le_refl _))
      ((hmax axis _).mp (Int16.le_refl _))

theorem widenAll_congr {samples other : List Sample} (h : ∀ s, s ∈ other ↔ s ∈ samples)
    (e : Envelope) : e.widenAll other = e.widenAll samples := by
  refine ext_bounds (fun axis v => ?_) fun axis v => ?_
  · rw [le_min_widenAll, le_min_widenAll]
    simp only [h]
  · rw [max_widenAll_le, max_widenAll_le]
    simp only [h]

/-- A sample that was taken in may come again. -/
theorem widen_widen (e : Envelope) (s : Sample) : (e.widen s).widen s = e.widen s := by
  have hsame : ∀ t, t ∈ [s, s] ↔ t ∈ [s] := fun t => by
    rw [List.mem_cons, List.mem_singleton, or_self]
  exact widenAll_congr hsame e

theorem holds_widenAll {e : Envelope} {samples : List Sample} {s : Sample} (hs : s ∈ samples) :
    (e.widenAll samples).Holds s :=
  fun _ => ⟨(le_min_widenAll.mp (Int16.le_refl _)).2 s hs,
    (max_widenAll_le.mp (Int16.le_refl _)).2 s hs⟩

/-- Only samples that lie within leave an envelope as it is. -/
theorem widenAll_eq_self_iff {e : Envelope} {samples : List Sample} :
    e.widenAll samples = e ↔ ∀ s ∈ samples, e.Holds s := by
  constructor
  · intro h s hs
    rw [← h]
    exact holds_widenAll hs
  · intro h
    refine ext_bounds (fun axis v => ?_) fun axis v => ?_
    · rw [le_min_widenAll, and_iff_left_iff_imp]
      exact fun hv s hs => Int16.le_trans hv (h s hs axis).1
    · rw [max_widenAll_le, and_iff_left_iff_imp]
      exact fun hv s hs => Int16.le_trans (h s hs axis).2 hv

/-! ## Where the bounds come from -/

theorem min_widenAll_cases (axis : Axis) (samples : List Sample) :
    ∀ e : Envelope, (e.widenAll samples).min.along axis = e.min.along axis ∨
      ∃ s ∈ samples, s.along axis = (e.widenAll samples).min.along axis := by
  induction samples with
  | nil => exact fun _ => .inl rfl
  | cons s samples ih =>
    intro e
    rw [widenAll_cons]
    rcases ih (e.widen s) with h | ⟨t, ht, h⟩
    · rw [h, min_along_widen]
      rcases Std.min_eq_or (a := e.min.along axis) (b := s.along axis) with heq | heq
      · exact .inl heq
      · exact .inr ⟨s, List.mem_cons_self, heq.symm⟩
    · exact .inr ⟨t, List.mem_cons_of_mem _ ht, h⟩

theorem max_widenAll_cases (axis : Axis) (samples : List Sample) :
    ∀ e : Envelope, (e.widenAll samples).max.along axis = e.max.along axis ∨
      ∃ s ∈ samples, s.along axis = (e.widenAll samples).max.along axis := by
  induction samples with
  | nil => exact fun _ => .inl rfl
  | cons s samples ih =>
    intro e
    rw [widenAll_cons]
    rcases ih (e.widen s) with h | ⟨t, ht, h⟩
    · rw [h, max_along_widen]
      rcases Std.max_eq_or (a := e.max.along axis) (b := s.along axis) with heq | heq
      · exact .inl heq
      · exact .inr ⟨s, List.mem_cons_self, heq.symm⟩
    · exact .inr ⟨t, List.mem_cons_of_mem _ ht, h⟩

theorem isLeast_min_widenAll (e : Envelope) (samples : List Sample) (axis : Axis) :
    IsLeast {v | v = e.min.along axis ∨ ∃ s ∈ samples, s.along axis = v}
      ((e.widenAll samples).min.along axis) := by
  obtain ⟨hstart, hsamples⟩ := le_min_widenAll.mp
    (Int16.le_refl ((e.widenAll samples).min.along axis))
  refine ⟨min_widenAll_cases axis samples e, ?_⟩
  rintro v (rfl | ⟨s, hs, rfl⟩)
  · exact hstart
  · exact hsamples s hs

theorem isGreatest_max_widenAll (e : Envelope) (samples : List Sample) (axis : Axis) :
    IsGreatest {v | v = e.max.along axis ∨ ∃ s ∈ samples, s.along axis = v}
      ((e.widenAll samples).max.along axis) := by
  obtain ⟨hstart, hsamples⟩ := max_widenAll_le.mp
    (Int16.le_refl ((e.widenAll samples).max.along axis))
  refine ⟨max_widenAll_cases axis samples e, ?_⟩
  rintro v (rfl | ⟨s, hs, rfl⟩)
  · exact hstart
  · exact hsamples s hs

/-- Let an envelope be widened by samples. On each axis its bounds are the least and the greatest of
the bounds at first and of the samples. They are the same for every list with these samples in it,
in whatever order and however often each. Every sample lies within, so from the first one on the
envelope is not upside down, even if it was so. It stays as it is just if all samples lie within it
already. -/
theorem widenAll_smallest (e : Envelope) (samples : List Sample) :
    let box := e.widenAll samples
    (∀ axis,
      IsLeast {v | v = e.min.along axis ∨ ∃ s ∈ samples, s.along axis = v}
        (box.min.along axis) ∧
      IsGreatest {v | v = e.max.along axis ∨ ∃ s ∈ samples, s.along axis = v}
        (box.max.along axis)) ∧
    (∀ other : List Sample, other.Perm samples → e.widenAll other = box) ∧
    (∀ other : List Sample, (∀ s, s ∈ other ↔ s ∈ samples) → e.widenAll other = box) ∧
    (∀ s ∈ samples, box.Holds s) ∧
    (samples ≠ [] → ∀ axis, box.min.along axis ≤ box.max.along axis) ∧
    (box = e ↔ ∀ s ∈ samples, e.Holds s) := by
  intro box
  refine ⟨fun axis => ⟨e.isLeast_min_widenAll samples axis, e.isGreatest_max_widenAll samples axis⟩,
    fun other hperm => widenAll_congr (fun _ => hperm.mem_iff) e,
    fun other h => widenAll_congr h e, fun s hs => holds_widenAll hs, fun hsome axis => ?_,
    widenAll_eq_self_iff⟩
  obtain ⟨s, hs⟩ := List.exists_mem_of_ne_nil samples hsome
  obtain ⟨hlow, hhigh⟩ := holds_widenAll (e := e) hs axis
  exact Int16.le_trans hlow hhigh

/-- An envelope that is upside down on two axes and reaches as far as can be on the third. One of
the samples comes again, and before the others. -/
theorem widenAll_smallest_of_inverted :
    let e : Envelope := ⟨⟨5, 1, -32768⟩, ⟨-5, 0, 32767⟩⟩
    let samples : List Sample := [⟨3, -7, 0⟩, ⟨-8, 2, 1⟩]
    let other : List Sample := [⟨-8, 2, 1⟩, ⟨3, -7, 0⟩, ⟨-8, 2, 1⟩]
    (∀ s, s ∈ other ↔ s ∈ samples) ∧ e.widenAll other = e.widenAll samples ∧
      samples ≠ [] ∧ (e.widenAll samples).min.along .x ≤ (e.widenAll samples).max.along .x ∧
      e.widenAll samples = ⟨⟨-8, -7, -32768⟩, ⟨3, 2, 32767⟩⟩ := by
  intro e samples other
  have hsame : ∀ s, s ∈ other ↔ s ∈ samples := by
    intro s
    simp only [other, samples, List.mem_cons, List.not_mem_nil, or_false]
    tauto
  obtain ⟨-, -, hother, -, hupright, -⟩ := widenAll_smallest e samples
  exact ⟨hsame, hother other hsame, nofun, hupright nofun .x, by decide⟩

end Envelope

end Magnetometer
