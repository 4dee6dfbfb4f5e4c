import Mathlib
import ComputeBench.Proofs.Walk.Path
import ComputeBench.Proofs.Walk.Samples

namespace ComputeBench

variable {records : Array Record} {iterations : Nat}

namespace Walk

theorem sum_samples_bounds (nonempty : 0 < records.size) {low high : Int}
    (bounded : ∀ sample ∈ samples records iterations, low ≤ sample ∧ sample ≤ high) :
    16 * iterations * low ≤ (samples records iterations).sum ∧
      (samples records iterations).sum ≤ 16 * iterations * high := by
  obtain ⟨lower, upper⟩ := sum_between bounded
  rw [length_samples nonempty, recordSize] at lower upper
  push_cast at lower upper
  exact ⟨lower, upper⟩

/-- Sixteen samples a step, each at least -128, reach the least word after `2 ^ 52` steps. -/
theorem sum_samples_fits (nonempty : 0 < records.size) (few : iterations ≤ 2 ^ 52) :
    -2 ^ 63 ≤ (samples records iterations).sum ∧ (samples records iterations).sum < 2 ^ 63 := by
  obtain ⟨lower, upper⟩ : 16 * iterations * -128 ≤ (samples records iterations).sum ∧
      (samples records iterations).sum ≤ 16 * iterations * 127 :=
    sum_samples_bounds nonempty fun _ member => bounds_of_mem_samples member
  omega

theorem sum_samples_lowest (iterations : Nat) :
    (samples (Array.replicate 1 .lowest) iterations).sum = -2048 * iterations := by
  have once : (Record.lowest.values.toList.map Int8.toInt).sum = -2048 := by decide
  rw [samples_replicate Nat.one_pos, List.sum_flatten, List.map_replicate,
    List.sum_replicate, once, nsmul_eq_mul, mul_comm]

end Walk

namespace Tally

variable {tally : Tally} {read : List Int}

theorem Summarizes.sum_eq (summary : tally.Summarizes read) (lower : -2 ^ 63 ≤ read.sum)
    (upper : read.sum < 2 ^ 63) : tally.sum.toInt = read.sum := by
  rw [summary.sum]
  apply Int.bmod_eq_of_le_mul_two <;> omega

structure Spans (tally : Tally) (read : List Int) : Prop where
  lower : -128 ≤ tally.least.toInt
  ordered : tally.least.toInt ≤ tally.greatest.toInt
  upper : tally.greatest.toInt ≤ 127
  least_read : tally.least.toInt ∈ read
  greatest_read : tally.greatest.toInt ∈ read
  nonempty : tally.isEmpty = false

end Tally

namespace Walk

theorem spans_of_summarizes {tally : Tally} (nonempty : 0 < records.size)
    (stepped : 1 ≤ iterations) (summary : tally.Summarizes (samples records iterations)) :
    tally.Spans (samples records iterations) := by
  have least := isLeast_of_summarizes nonempty stepped summary
  have greatest := isGreatest_of_summarizes nonempty stepped summary
  refine ⟨(bounds_of_mem_samples least.1).1, least.2 greatest.1,
    (bounds_of_mem_samples greatest.1).2, least.1, greatest.1, ?_⟩
  rw [← Bool.not_eq_true, isEmpty_iff_of_summarizes nonempty summary]
  omega

/-- Every sample lies between the extremes, so the sum lies between their multiples. -/
theorem sum_between_extremes {tally : Tally} (nonempty : 0 < records.size)
    (stepped : 1 ≤ iterations) (summary : tally.Summarizes (samples records iterations)) :
    16 * iterations * tally.least.toInt ≤ (samples records iterations).sum ∧
      (samples records iterations).sum ≤ 16 * iterations * tally.greatest.toInt := by
  have least := isLeast_of_summarizes nonempty stepped summary
  have greatest := isGreatest_of_summarizes nonempty stepped summary
  exact sum_samples_bounds nonempty fun sample member =>
    ⟨least.2 member, greatest.2 member⟩

end Walk

/-- A walk of at least one step answers with extremes that it has read, and up to `2 ^ 52` steps
with the exact sum of what it has read, which then lies between the multiples of the extremes.
No greater bound will do: beyond it the walk over the lowest record answers with another sum. -/
theorem walk_aggregates :
    (∀ (iterations count : UInt64) (records : Array Record), 0 < records.size →
      records.size ≤ maxAllocation / recordSize → records.size = count.toNat →
      ∃ read tally, Walk.Observed iterations count records read tally ∧
        (1 ≤ iterations.toNat → tally.Spans read) ∧
        (iterations.toNat ≤ 2 ^ 52 → tally.sum.toInt = read.sum ∧
          (1 ≤ iterations.toNat →
            16 * iterations.toNat * tally.least.toInt ≤ tally.sum.toInt ∧
              tally.sum.toInt ≤ 16 * iterations.toNat * tally.greatest.toInt))) ∧
    ∀ iterations : UInt64, 2 ^ 52 < iterations.toNat →
      ∃ count records read tally, records.size ≤ maxAllocation / recordSize ∧
        records.size = count.toNat ∧ Walk.Observed iterations count records read tally ∧
          tally.sum.toInt ≠ read.sum := by
  constructor
  · intro iterations count records nonempty fits whole
    obtain ⟨tally, observed, summary⟩ :=
      Walk.observed_of_size iterations (.of_fits nonempty fits) whole
    refine ⟨_, tally, observed,
      fun stepped => Walk.spans_of_summarizes nonempty stepped summary, ?_⟩
    intro few
    obtain ⟨lower, upper⟩ := Walk.sum_samples_fits nonempty few
    have exact := summary.sum_eq lower upper
    refine ⟨exact, fun stepped => ?_⟩
    rw [exact]
    exact Walk.sum_between_extremes nonempty stepped summary
  · intro iterations many
    have walkable : Walkable (Array.replicate 1 .lowest) :=
      .of_fits Nat.one_pos (by decide)
    have whole : (Array.replicate 1 Record.lowest).size = (1 : UInt64).toNat := rfl
    obtain ⟨tally, observed, -⟩ := Walk.observed_of_size iterations walkable whole
    refine ⟨1, _, _, tally, by decide, whole, observed, ?_⟩
    have least := tally.sum.le_toInt
    rw [Walk.sum_samples_lowest]
    omega

/-- Three steps are added up exactly; the first step past the bound takes some sum out of a word. -/
theorem walk_aggregates_beyond_bound :
    (0 < #[Record.sample, .zero].size ∧
      #[Record.sample, .zero].size ≤ maxAllocation / recordSize ∧
      #[Record.sample, .zero].size = (2 : UInt64).toNat ∧
      ∃ read tally, Walk.Observed 3 2 #[.sample, .zero] read tally ∧ tally.Spans read ∧
        tally.sum.toInt = read.sum ∧ 48 * tally.least.toInt ≤ tally.sum.toInt) ∧
    2 ^ 52 < (0x10000000000001 : UInt64).toNat ∧
      ∃ count records read tally, Walk.Observed 0x10000000000001 count records read tally ∧
        tally.sum.toInt ≠ read.sum := by
  obtain ⟨exact, sharp⟩ := walk_aggregates
  refine ⟨⟨by decide, by decide, by decide, ?_⟩, by decide, ?_⟩
  · obtain ⟨read, tally, observed, spans, sum⟩ :=
      exact 3 2 #[.sample, .zero] (by decide) (by decide) (by decide)
    obtain ⟨whole, between⟩ := sum (by decide)
    exact ⟨read, tally, observed, spans (by decide), whole, (between (by decide)).1⟩
  · obtain ⟨count, records, read, tally, -, -, observed, differs⟩ :=
      sharp 0x10000000000001 (by decide)
    exact ⟨count, records, read, tally, observed, differs⟩

end ComputeBench
