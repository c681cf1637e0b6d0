import Mathlib.Analysis.Convex.Segment
import Mathlib.Order.Bounds.Basic

/-!
Exponential moving averages. The first sample is the average, and each later one is
blended into it with a fixed weight, so the average stays between the samples.
-/

namespace Chainmail

section Samples
variable {α : Type*} [LinearOrder α] {samples : List α} {sample average value : α}

/-- The value lies between the least and the greatest sample. -/
def Spanned (samples : List α) (value : α) : Prop :=
  ∃ least greatest, IsLeast {sample | sample ∈ samples} least ∧
    IsGreatest {sample | sample ∈ samples} greatest ∧ least ≤ value ∧ value ≤ greatest

theorem spanned_singleton (sample : α) : Spanned [sample] sample := by
  have only : {other | other ∈ [sample]} = {sample} := Set.ext fun _ => List.mem_singleton
  refine ⟨sample, sample, ?_, ?_, le_refl _, le_refl _⟩
  · rw [only]
    exact isLeast_singleton
  · rw [only]
    exact isGreatest_singleton

/-- What lies between a spanned value and a new sample is spanned with it. -/
theorem Spanned.cons (spanned : Spanned samples average) (above : min average sample ≤ value)
    (below : value ≤ max average sample) : Spanned (sample :: samples) value := by
  obtain ⟨least, greatest, isLeast, isGreatest, lower, upper⟩ := spanned
  have joined : {other | other ∈ sample :: samples} = insert sample {other | other ∈ samples} :=
    Set.ext fun _ => List.mem_cons
  refine ⟨min sample least, max sample greatest, ?_, ?_, ?_, ?_⟩
  · rw [joined]
    exact isLeast.insert sample
  · rw [joined]
    exact isGreatest.insert sample
  · calc min sample least ≤ min sample average := min_le_min_left sample lower
      _ = min average sample := min_comm sample average
      _ ≤ value := above
  · calc value ≤ max average sample := below
      _ = max sample average := max_comm average sample
      _ ≤ max sample greatest := max_le_max_left sample upper

end Samples

section Average
variable {K : Type*} [CommRing K] {weight average : K} {samples : List K}

/-- The average after one more sample. -/
def blend (weight : K) (average : Option K) (sample : K) : K :=
  match average with
  | none => sample
  | some average => average * (1 - weight) + sample * weight

/-- The last sample comes first. -/
def movingAverage (weight : K) : List K → Option K
  | [] => none
  | sample :: earlier => some (blend weight (movingAverage weight earlier) sample)

theorem movingAverage_none (unset : movingAverage weight samples = none) : samples = [] := by
  cases samples with
  | nil => rfl
  | cons sample earlier => cases unset

variable [LinearOrder K] [IsStrictOrderedRing K]

/-- A moving average never leaves the samples it is made of. -/
theorem movingAverage_spanned (nonneg : 0 ≤ weight) (le_one : weight ≤ 1)
    (held : movingAverage weight samples = some average) : Spanned samples average := by
  induction samples generalizing average with
  | nil => cases held
  | cons sample earlier ih =>
      obtain rfl := Option.some.inj held
      cases before : movingAverage weight earlier with
      | none =>
          rw [movingAverage_none before]
          exact spanned_singleton sample
      | some average =>
          have rest : 0 ≤ 1 - weight := sub_nonneg.mpr le_one
          have whole : 1 - weight + weight = 1 := sub_add_cancel 1 weight
          have blended : blend weight (some average) sample =
              (1 - weight) • average + weight • sample := by
            rw [blend, smul_eq_mul, smul_eq_mul, mul_comm average, mul_comm sample]
          refine (ih before).cons ?_ ?_
          · rw [blended]
            exact Convex.min_le_combo average sample rest nonneg whole
          · rw [blended]
            exact Convex.combo_le_max average sample rest nonneg whole

end Average

end Chainmail
