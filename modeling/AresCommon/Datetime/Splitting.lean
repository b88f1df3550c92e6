import AresCommon.Datetime.Conversion
import Mathlib.Data.Prod.Lex

/-!
# Splitting a time point

Before the epoch three roundings meet: the remainder and its microseconds are rounded toward
zero, the correction of a negative remainder borrows a second, and the seconds are rounded
toward zero again. Together they round the time point toward zero, to a microsecond.
-/

namespace AresCommon.Datetime

set_option autoImplicit false

namespace DateTime

def splitTimepoint (timepoint : Int) : Int × Int :=
  (secondsOf timepoint (microsecondsOf timepoint), microsecondsOf timepoint)

/-- No value on the way leaves the range of its type. -/
structure SplitFits (timepoint : Int) : Prop where
  truncated : FitsInt ((timepoint.tmod 1000000000).tdiv 1000)
  corrected : (timepoint.tmod 1000000000).tdiv 1000 < 0 →
    FitsInt ((timepoint.tmod 1000000000).tdiv 1000 + 1000000)
  scaled : FitsInt64 (microsecondsOf timepoint * 1000)
  difference : FitsInt64 (timepoint - microsecondsOf timepoint * 1000)
  seconds : FitsInt64 (toTimeT (timepoint - microsecondsOf timepoint * 1000))

/-- A time point at least one second above the least. -/
structure Splittable (timepoint : Int) : Prop where
  word : FitsInt64 timepoint
  above : -2 ^ 63 + 1000000000 ≤ timepoint

variable {timepoint later : Int}

theorem Splittable.split_instant (splittable : Splittable timepoint) :
    splitInstant timepoint = 1000 * timepoint.tdiv 1000 := by
  have plain : NoUnderflow timepoint := by
    have above := splittable.above
    unfold NoUnderflow
    omega
  have split := DateTime.split_instant splittable.word
  rwa [if_pos plain, Int.add_zero] at split

theorem Splittable.fits (splittable : Splittable timepoint) : SplitFits timepoint := by
  have within := tmod_tdiv timepoint
  have bounds := microsecondsOf_bounds timepoint
  have above := splittable.above
  have word := splittable.word
  unfold FitsInt64 at word
  have difference : FitsInt64 (timepoint - microsecondsOf timepoint * 1000) := by
    unfold FitsInt64
    omega
  constructor
  · unfold FitsInt
    split at within <;> omega
  · unfold FitsInt
    split at within <;> omega
  · unfold FitsInt64
    omega
  · exact difference
  · unfold FitsInt64 at *
    unfold toTimeT
    rcases Int.lt_or_le (timepoint - microsecondsOf timepoint * 1000) 0 with negative | nonneg
    · rw [tdiv_of_neg negative]
      omega
    · rw [Int.tdiv_eq_ediv_of_nonneg nonneg]
      omega

theorem Splittable.instant_le (splittable : Splittable timepoint) (after : Splittable later)
    (order : timepoint ≤ later) : splitInstant timepoint ≤ splitInstant later := by
  rw [splittable.split_instant, after.split_instant]
  have rounded := Int.tdiv_le_tdiv (show 0 < 1000 by decide) order
  omega

theorem splitTimepoint_le (order : splitInstant timepoint ≤ splitInstant later) :
    toLex (splitTimepoint timepoint) ≤ toLex (splitTimepoint later) := by
  have bounds := microsecondsOf_bounds timepoint
  have bounds' := microsecondsOf_bounds later
  rw [Prod.Lex.toLex_le_toLex]
  unfold splitInstant at order
  unfold splitTimepoint
  simp only
  omega

/-- The split of a time point is within its second, less than a microsecond away from it and
equal to it in whole microseconds; nothing overflows, and the order is kept. -/
theorem timepoint_split (splittable : Splittable timepoint) :
    (0 ≤ (splitTimepoint timepoint).2 ∧ (splitTimepoint timepoint).2 < 1000000) ∧
      |(splitTimepoint timepoint).1 * 1000000000 + (splitTimepoint timepoint).2 * 1000 -
        timepoint| < 1000 ∧
      (1000 ∣ timepoint → (splitTimepoint timepoint).1 * 1000000000 +
        (splitTimepoint timepoint).2 * 1000 = timepoint) ∧
      SplitFits timepoint ∧
      ∀ later, Splittable later → timepoint ≤ later →
        toLex (splitTimepoint timepoint) ≤ toLex (splitTimepoint later) := by
  have instant : (splitTimepoint timepoint).1 * 1000000000 +
      (splitTimepoint timepoint).2 * 1000 = 1000 * timepoint.tdiv 1000 :=
    splittable.split_instant
  have near := tdiv_near timepoint
  refine ⟨microsecondsOf_bounds timepoint, ?_, fun whole => ?_, splittable.fits, ?_⟩
  · rw [instant, abs_lt]
    exact near
  · rw [instant]
    exact Int.mul_tdiv_cancel' whole
  · intro later after order
    exact splitTimepoint_le (splittable.instant_le after order)

/-- A nanosecond before the epoch. -/
theorem timepoint_split_before_epoch :
    toLex (splitTimepoint (-1)) ≤ toLex (splitTimepoint 0) := by
  have earlier : Splittable (-1) := ⟨by decide, by decide⟩
  obtain ⟨_, _, _, _, ordered⟩ := timepoint_split earlier
  exact ordered 0 ⟨by decide, by decide⟩ (by decide)

end DateTime

end AresCommon.Datetime
