import Mathlib
import ComputeBench.Proofs.Message.WalkOutcome
import ComputeBench.Workload.Walks

namespace ComputeBench

namespace Workload

theorem walkRequest_eq (iterations : UInt64) {byteCount : Nat}
    (fits : byteCount ≤ 2 ^ 63 - 8) :
    walkRequest iterations byteCount =
      .ok (WalkRequest.encode
        ⟨iterations, Array.replicate (recordCount byteCount) .sample⟩) := by
  have room : headerSize + recordSize * recordCount byteCount ≤ maxAllocation := by
    simp only [recordCount, headerSize, wordSize, recordSize, maxAllocation]
    omega
  rw [walkRequest, allocate, if_pos room]
  rfl

theorem recordCount_pos (byteCount : Nat) : 0 < recordCount byteCount :=
  Nat.lt_of_lt_of_le Nat.one_pos (Nat.le_max_left _ _)

theorem recordCount_le {byteCount : Nat} (fits : byteCount ≤ 2 ^ 63 - 8) :
    recordCount byteCount ≤ maxAllocation / recordSize := by
  simp only [recordCount, headerSize, wordSize, recordSize, maxAllocation]
  omega

theorem foldl_replicate {combine : Int → Int → Int} {values : List Int}
    {start bound : Int} (reached : values.foldl combine start = bound)
    (kept : values.foldl combine bound = bound) (copies : Nat) :
    (List.replicate (copies + 1) values).flatten.foldl combine start = bound := by
  induction copies with
  | zero => rw [List.replicate_one, List.flatten_singleton, reached]
  | succ copies ih =>
      rw [List.replicate_succ', List.flatten_append, List.foldl_append, ih,
        List.flatten_singleton, kept]

abbrev sampleValues : List Int := Record.sample.values.toList.map Int8.toInt

theorem expectedTally_summarizes (iterations : UInt64) :
    (expectedTally iterations).Summarizes
      (List.replicate iterations.toNat sampleValues).flatten := by
  by_cases none : iterations = 0
  · subst none
    exact Tally.empty_summarizes
  · obtain ⟨copies, steps⟩ : ∃ copies, iterations.toNat = copies + 1 :=
      Nat.exists_eq_succ_of_ne_zero fun zero => none (UInt64.toNat_inj.mp zero)
    have signed : iterations.toInt64.toInt = (iterations.toNat : Int).bmod (2 ^ 64) :=
      BitVec.toInt_eq_toNat_bmod iterations.toBitVec
    have sumOnce : sampleValues.sum = Record.sample.sum.toInt := Record.sample.toInt_sum_eq.symm
    have leastOnce : sampleValues.foldl min 256 = -120 := by decide +kernel
    have leastKept : sampleValues.foldl min (-120) = -120 := by decide +kernel
    have greatestOnce : sampleValues.foldl max (-256) = 113 := by decide +kernel
    have greatestKept : sampleValues.foldl max 113 = 113 := by decide +kernel
    have least : (Record.sample.samples.min?.getD 0).toInt = -120 := by decide +kernel
    have greatest : (Record.sample.samples.max?.getD 0).toInt = 113 := by decide +kernel
    rw [expectedTally, if_neg none]
    refine ⟨?_, ?_, ?_⟩
    · rw [Int64.toInt_mul, signed, Int.bmod_mul_bmod, List.sum_flatten,
        List.map_replicate, List.sum_replicate, sumOnce, nsmul_eq_mul]
    · rw [steps, foldl_replicate leastOnce leastKept, least]
    · rw [steps, foldl_replicate greatestOnce greatestKept, greatest]

theorem run_of_replicate (iterations : UInt64) {count : Nat} (positive : 0 < count)
    (storable : count ≤ maxAllocation / recordSize) :
    WalkRequest.run ⟨iterations, Array.replicate count .sample⟩ =
      .ok (expectedTally iterations) := by
  have size : (Array.replicate count Record.sample).size = count := Array.size_replicate
  obtain ⟨tally, ran, summary⟩ :
      ∃ tally, WalkRequest.run ⟨iterations, Array.replicate count .sample⟩ = .ok tally ∧
        tally.Summarizes
          (Walk.samples (Array.replicate count .sample) iterations.toNat) :=
    WalkRequest.run_of_fits (by rwa [size]) (by rwa [size])
  rw [Walk.samples_replicate positive] at summary
  rw [ran, summary.unique (expectedTally_summarizes iterations)]

/-- The closed form is the answer of the whole service: the generated bytes decode, the decoded
request runs, and the walk returns the expected tally, for every number of iterations. -/
theorem walkRequest_reaches_expectedTally (iterations : UInt64) (byteCount : Nat)
    (fits : byteCount ≤ 2 ^ 63 - 8) :
    ∃ bytes request, walkRequest iterations byteCount = .ok bytes ∧
      WalkRequest.decode bytes = .ok request ∧
      request.run = .ok (expectedTally iterations) := by
  have positive := recordCount_pos byteCount
  have carried : (Array.replicate (recordCount byteCount) Record.sample).isEmpty =
      false := by
    rw [Array.isEmpty_eq_false_iff_exists_mem]
    exact ⟨_, Array.mem_replicate.mpr ⟨positive.ne', rfl⟩⟩
  refine ⟨_, ⟨iterations, Array.replicate (recordCount byteCount) .sample⟩,
    walkRequest_eq iterations fits, ?_, ?_⟩
  · rw [WalkRequest.decode_encode, carried]
    rfl
  · exact run_of_replicate iterations positive (recordCount_le fits)

/-- The last count, whose signed reading is minus one: the sum has wrapped to minus 88. -/
theorem walkRequest_last_count :
    40 ≤ 2 ^ 63 - 8 ∧
      ∃ bytes request, walkRequest 0xffffffffffffffff 40 = .ok bytes ∧
        WalkRequest.decode bytes = .ok request ∧
        request.run = .ok ⟨-88, -120, 113⟩ := by
  obtain ⟨bytes, request, generated, decoded, ran⟩ :=
    walkRequest_reaches_expectedTally 0xffffffffffffffff 40 (by decide)
  have expected : expectedTally 0xffffffffffffffff = ⟨-88, -120, 113⟩ := by
    decide +kernel
  exact ⟨by decide, bytes, request, generated, decoded, expected ▸ ran⟩

end Workload

end ComputeBench
