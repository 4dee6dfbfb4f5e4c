import Mathlib
import ComputeBench.Proofs.Walk.Refinement

namespace ComputeBench

variable {records : Array Record}

namespace Walk

theorem length_samplesAt {index : Nat} (inside : index < records.size) :
    (samplesAt records index).length = recordSize := by
  simp [samplesAt, inside]

theorem length_samples (nonempty : 0 < records.size) (iterations : Nat) :
    (samples records iterations).length = recordSize * iterations := by
  induction iterations with
  | zero => rfl
  | succ steps ih =>
      rw [samples_succ, List.length_append, ih,
        length_samplesAt (position_lt nonempty steps), Nat.mul_succ]

theorem bounds_of_mem_samples {iterations : Nat} {sample : Int}
    (member : sample ∈ samples records iterations) : -128 ≤ sample ∧ sample ≤ 127 := by
  obtain ⟨step, -, read⟩ := List.mem_flatMap.mp member
  unfold samplesAt at read
  split at read
  · exact Record.bounds_of_mem read
  · cases read

theorem samples_eq_nil_iff (nonempty : 0 < records.size) {iterations : Nat} :
    samples records iterations = [] ↔ iterations = 0 := by
  rw [← List.length_eq_zero_iff, length_samples nonempty, Nat.mul_eq_zero]
  exact or_iff_right recordSize_pos.ne'

theorem samples_replicate {count : Nat} (positive : 0 < count) (record : Record)
    (iterations : Nat) :
    samples (Array.replicate count record) iterations =
      (List.replicate iterations (record.values.toList.map Int8.toInt)).flatten := by
  induction iterations with
  | zero => rfl
  | succ iterations ih =>
      have inside : position (Array.replicate count record) iterations < count := by
        have nonempty : 0 < (Array.replicate count record).size := by
          rwa [Array.size_replicate]
        have below := position_lt nonempty iterations
        rwa [Array.size_replicate] at below
      rw [samples_succ, ih, samplesAt, Array.getElem?_replicate, if_pos inside,
        List.replicate_succ', List.flatten_append, List.flatten_singleton]

variable {tally : Tally} {iterations : Nat}

theorem samples_ne_nil (nonempty : 0 < records.size) (stepped : 1 ≤ iterations) :
    samples records iterations ≠ [] :=
  mt (samples_eq_nil_iff nonempty).mp (Nat.ne_of_gt stepped)

theorem isLeast_of_summarizes (nonempty : 0 < records.size) (stepped : 1 ≤ iterations)
    (summary : tally.Summarizes (samples records iterations)) :
    IsLeast {sample | sample ∈ samples records iterations} tally.least.toInt :=
  summary.isLeast (samples_ne_nil nonempty stepped) fun _ member =>
    bounds_of_mem_samples member

theorem isGreatest_of_summarizes (nonempty : 0 < records.size) (stepped : 1 ≤ iterations)
    (summary : tally.Summarizes (samples records iterations)) :
    IsGreatest {sample | sample ∈ samples records iterations} tally.greatest.toInt :=
  summary.isGreatest (samples_ne_nil nonempty stepped) fun _ member =>
    bounds_of_mem_samples member

theorem isEmpty_iff_of_summarizes (nonempty : 0 < records.size)
    (summary : tally.Summarizes (samples records iterations)) :
    tally.isEmpty = true ↔ iterations = 0 := by
  rw [← samples_eq_nil_iff nonempty]
  exact summary.isEmpty_iff fun _ member => bounds_of_mem_samples member

end Walk

end ComputeBench
