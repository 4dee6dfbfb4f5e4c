import Mathlib
import ComputeBench.Proofs.Message.Tally
import ComputeBench.Proofs.Message.WalkRequest
import ComputeBench.Proofs.Walk.Samples

namespace ComputeBench

theorem LittleEndian.decode_eq_zero_iff (bytes : Bytes) :
    decode bytes = 0 ↔ ∀ byte ∈ bytes, byte = 0 := by
  induction bytes with
  | nil => simp [decode]
  | cons byte rest ih =>
      have none : byte.toNat = 0 ↔ byte = 0 := UInt8.toNat_inj (b := 0)
      simp only [decode, List.mem_cons, forall_eq_or_imp, ← ih, ← none]
      omega

theorem decodeUnsigned_header_eq_zero_iff {bytes : Bytes} (long : headerSize ≤ bytes.length) :
    decodeUnsigned (bytes.take headerSize) = 0 ↔
      bytes.take headerSize = List.replicate headerSize 0 := by
  have length : (bytes.take headerSize).length = headerSize := List.length_take_of_le long
  rw [← UInt64.toNat_inj, toNat_decodeUnsigned _ length, List.eq_replicate_iff,
    ← LittleEndian.decode_eq_zero_iff]
  simp [length]

namespace WalkRequest

variable {request : WalkRequest} {bytes : Bytes}

theorem run_of_empty (none : request.records = #[]) :
    request.run = .error (.refused .zeroCount) := by
  have zero : request.count = 0 := by
    rw [count, none]
    rfl
  rw [run, walk, zero]
  rfl

theorem run_of_fits (carried : 0 < request.records.size)
    (fits : request.records.size ≤ maxAllocation / recordSize) :
    ∃ tally, request.run = .ok tally ∧
      tally.Summarizes (Walk.samples request.records request.iterations.toNat) := by
  have room : request.records.size < UInt64.size := fits.trans_lt (by decide)
  have word : request.count.toNat = request.records.size := UInt64.toNat_ofNat_of_lt' room
  exact walk_of_size request.iterations (.of_fits carried fits) word.symm

theorem run_eq_error_iff (fits : request.records.size ≤ maxAllocation / recordSize)
    {fault : Fault} :
    request.run = .error fault ↔ request.records = #[] ∧ fault = .refused .zeroCount := by
  constructor
  · intro failed
    cases empty : request.records.size with
    | zero =>
        have none := Array.eq_empty_of_size_eq_zero empty
        exact ⟨none, Except.error.inj (failed.symm.trans (run_of_empty none))⟩
    | succ more =>
        have carried : 0 < request.records.size := empty ▸ Nat.succ_pos more
        obtain ⟨tally, ran, -⟩ := run_of_fits carried fits
        cases ran.symm.trans failed
  · intro refused
    rw [refused.2]
    exact run_of_empty refused.1

theorem whole_of_decode (decoded : decode bytes = .ok request) :
    0 < request.records.size ∧
      bytes.length = headerSize + recordSize * request.records.size ∧
        request.iterations = decodeUnsigned (bytes.take headerSize) := by
  by_cases long : headerSize ≤ bytes.length
  · by_cases records : recordSize ∣ bytes.length - headerSize
    · obtain ⟨count, body⟩ := records
      have whole : bytes.length = headerSize + recordSize * count := by omega
      rw [decode_of_whole whole] at decoded
      split at decoded
      case isTrue => cases decoded
      case isFalse positive =>
          cases decoded
          rw [size_recordsAt]
          exact ⟨Nat.pos_of_ne_zero positive, whole, rfl⟩
    · rw [decode_of_partial long records] at decoded
      cases decoded
  · rw [decode_of_lt (not_le.mp long)] at decoded
    cases decoded

theorem encode_of_decode (decoded : decode bytes = .ok request) : request.encode = bytes := by
  obtain ⟨carried, whole, -⟩ := whole_of_decode decoded
  have read := decode_of_whole whole
  rw [decoded, if_neg carried.ne'] at read
  exact (congrArg encode (Except.ok.inj read)).trans (encode_of_whole whole)

/-- The sentinels of the empty tally are beyond every sample, so one step is enough to lose them. -/
theorem isEmpty_iff_of_summarizes {tally : Tally} (carried : 0 < request.records.size)
    (summary : tally.Summarizes (Walk.samples request.records request.iterations.toNat)) :
    tally.isEmpty = true ↔ request.iterations = 0 := by
  rw [Walk.isEmpty_iff_of_summarizes carried summary]
  exact UInt64.toNat_inj (b := 0)

/-- Every request from the wire is answered with the tally of the exact walk, which the client reads
back whole and finds empty only if no step was asked for. A request built by hand is refused for
one reason alone, that it carries no records. -/
theorem decoded_run_reaches_client :
    (∀ bytes request, bytes.length ≤ maxAllocation → decode bytes = .ok request →
      ∃ tally, request.run = .ok tally ∧
        tally.Summarizes (Walk.samples request.records request.iterations.toNat) ∧
        tally.encode.length = 24 ∧ Tally.decode tally.encode = .ok tally ∧
        (tally.isEmpty = true ↔ bytes.take 8 = List.replicate 8 0) ∧
        (request.iterations = 0 ↔ bytes.take 8 = List.replicate 8 0)) ∧
    ∀ request : WalkRequest, request.records.size ≤ maxAllocation / recordSize →
      ((∃ fault, request.run = .error fault) ↔ request.records = #[]) ∧
      ∀ fault, request.run = .error fault → fault = .refused .zeroCount := by
  constructor
  · intro bytes request fits decoded
    obtain ⟨carried, length, iterations⟩ := whole_of_decode decoded
    have storable : request.records.size ≤ maxAllocation / recordSize := by
      simp only [maxAllocation, recordSize, headerSize, wordSize] at fits length ⊢
      omega
    obtain ⟨tally, ran, summary⟩ := run_of_fits carried storable
    have none : request.iterations = 0 ↔ bytes.take 8 = List.replicate 8 0 := by
      rw [iterations]
      exact decodeUnsigned_header_eq_zero_iff (length ▸ Nat.le_add_right _ _)
    have untouched := isEmpty_iff_of_summarizes carried summary
    exact ⟨tally, ran, summary, tally.length_encode, tally.decode_encode,
      untouched.trans none, none⟩
  · intro request fits
    constructor
    · constructor
      · intro failed
        obtain ⟨fault, failed⟩ := failed
        exact ((run_eq_error_iff fits).mp failed).1
      · intro none
        exact ⟨_, run_of_empty none⟩
    · intro fault failed
      exact ((run_eq_error_iff fits).mp failed).2

/-- No step over one record of zeros: the client reads the empty tally. Three steps over the sample
record: the client reads its samples three times over. A request without records is refused. -/
theorem decoded_run_zero_and_three_steps :
    (List.replicate 24 (0 : UInt8)).length ≤ maxAllocation ∧
      (∃ request tally, decode (List.replicate 24 0) = .ok request ∧
        request.run = .ok tally ∧ Tally.decode tally.encode = .ok tally ∧
          tally.isEmpty = true) ∧
      (encode ⟨3, #[.sample]⟩).length ≤ maxAllocation ∧
      (∃ request tally, decode (encode ⟨3, #[.sample]⟩) = .ok request ∧
        request.iterations = 3 ∧ request.run = .ok tally ∧
          tally.Summarizes (Walk.samples request.records request.iterations.toNat) ∧
          Tally.decode tally.encode = .ok tally ∧ tally.isEmpty = false ∧
          tally = ⟨264, -120, 113⟩) ∧
      (WalkRequest.mk 3 #[]).records.size ≤ maxAllocation / recordSize ∧
        ∃ fault, run ⟨3, #[]⟩ = .error fault ∧ fault = .refused .zeroCount := by
  have decoded : decode (List.replicate 24 0) = .ok ⟨0, #[.zero]⟩ := by decide +kernel
  have stepped : decode (encode ⟨3, #[.sample]⟩) = .ok ⟨3, #[.sample]⟩ :=
    decode_encode_of_carried Nat.one_pos
  refine ⟨by decide, ?_, by decide, ?_, by decide, ?_⟩
  · obtain ⟨tally, ran, -, -, reread, empty, -⟩ :=
      decoded_run_reaches_client.1 (List.replicate 24 0) _ (by decide) decoded
    exact ⟨_, tally, decoded, ran, reread, empty.mpr rfl⟩
  · obtain ⟨tally, ran, summary, -, reread, empty, -⟩ :=
      decoded_run_reaches_client.1 (encode ⟨3, #[.sample]⟩) _ (by decide) stepped
    have walked : run ⟨3, #[.sample]⟩ = .ok ⟨264, -120, 113⟩ := by decide +kernel
    have taken : tally.isEmpty ≠ true := mt empty.mp (by decide)
    exact ⟨_, tally, stepped, rfl, ran, summary, reread, Bool.eq_false_of_not_eq_true taken,
      Except.ok.inj (ran.symm.trans walked)⟩
  · obtain ⟨fails, only⟩ := decoded_run_reaches_client.2 ⟨3, #[]⟩ (by decide)
    obtain ⟨fault, failed⟩ := fails.mpr rfl
    exact ⟨fault, failed, only fault failed⟩

end WalkRequest

end ComputeBench
