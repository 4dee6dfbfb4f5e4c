import Mathlib
import ComputeBench.Message.WalkRequest
import ComputeBench.Proofs.Bytes.Words
import ComputeBench.Proofs.Records

namespace ComputeBench

theorem toNat_decodeUnsigned_header {bytes : Bytes} (long : headerSize ≤ bytes.length) :
    (decodeUnsigned (bytes.take headerSize)).toNat =
      ∑ place ∈ Finset.range wordSize, (bytes.getD place 0).toNat * 256 ^ place := by
  have length : (bytes.take headerSize).length = wordSize := List.length_take_of_le long
  rw [toNat_decodeUnsigned _ length, LittleEndian.decode_eq_sum, length]
  apply Finset.sum_congr rfl
  intro place member
  have within : place < headerSize := Finset.mem_range.mp member
  rw [List.getD_eq_getElem?_getD, List.getD_eq_getElem?_getD,
    List.getElem?_take_of_lt within]

namespace WalkRequest

theorem decode_encode (request : WalkRequest) :
    decode request.encode =
      if request.records.isEmpty then .error .noRecords else .ok request := by
  rw [decode, encode, splitHeader_append _ _ (length_encodeUnsigned _), ok_bind]
  simp only [decodeRecords_encodeRecords, ok_bind, decodeUnsigned_encodeUnsigned]
  split
  · rfl
  · rfl

theorem decode_encode_of_carried {request : WalkRequest} (carried : 0 < request.records.size) :
    decode request.encode = .ok request := by
  rw [decode_encode, if_neg]
  rw [Array.isEmpty_iff_size_eq_zero]
  exact carried.ne'

theorem length_encode (request : WalkRequest) :
    request.encode.length = headerSize + recordSize * request.records.size := by
  rw [encode, List.length_append, length_encodeUnsigned, length_encodeRecords, headerSize]

variable {bytes : Bytes}

theorem decode_of_lt (short : bytes.length < headerSize) :
    decode bytes = .error (.truncated headerSize bytes.length) := by
  rw [decode, splitHeader_of_lt short, error_bind]

theorem decode_of_partial (long : headerSize ≤ bytes.length)
    (rest : ¬ recordSize ∣ bytes.length - headerSize) :
    decode bytes = .error (.partialRecord (bytes.length - headerSize)) := by
  rw [← List.length_drop] at rest ⊢
  rw [decode, splitHeader_of_le long, ok_bind]
  simp only [decodeRecords_of_partial rest, error_bind]

theorem decode_of_whole {count : Nat}
    (whole : bytes.length = headerSize + recordSize * count) :
    decode bytes =
      if count = 0 then .error .noRecords
      else .ok ⟨decodeUnsigned (bytes.take headerSize), recordsAt bytes headerSize count⟩ := by
  have long : headerSize ≤ bytes.length := by omega
  rw [decode, splitHeader_of_le long, ok_bind]
  simp only [decodeRecords_drop whole, ok_bind, Array.isEmpty_iff_size_eq_zero,
    size_recordsAt]
  split
  · rfl
  · rfl

theorem encode_of_whole {count : Nat}
    (whole : bytes.length = headerSize + recordSize * count) :
    encode ⟨decodeUnsigned (bytes.take headerSize), recordsAt bytes headerSize count⟩ =
      bytes := by
  have header : (bytes.take headerSize).length = wordSize :=
    List.length_take_of_le (by omega)
  rw [encode, encodeUnsigned_decodeUnsigned _ header, encodeRecords_recordsAt whole,
    List.take_append_drop]

/-- The requests that carry records and the buffers of a header and whole records, at least one,
are in bijection: each place of the buffer is one byte of the count or one sample. Every other
buffer is refused, and so is the encoding of a request without records. -/
theorem wire_bijection :
    (∀ bytes : Bytes,
      (bytes.length < 8 → decode bytes = .error (.truncated 8 bytes.length)) ∧
      (8 ≤ bytes.length → ¬ 16 ∣ bytes.length - 8 →
        decode bytes = .error (.partialRecord (bytes.length - 8))) ∧
      (bytes.length = 8 → decode bytes = .error .noRecords) ∧
      ∀ count, 0 < count → bytes.length = 8 + 16 * count →
        ∃ request, decode bytes = .ok request ∧
          request.iterations.toNat =
            ∑ place ∈ Finset.range 8, (bytes.getD place 0).toNat * 256 ^ place ∧
          request.records.size = count ∧
          (∀ index < count, ∃ record, request.records[index]? = some record ∧
            ∀ lane : Fin recordSize, (record.values.get lane).toInt =
              ((bytes.getD (8 + 16 * index + lane) 0).toNat : Int).bmod 256) ∧
          request.encode = bytes) ∧
    ∀ request : WalkRequest,
      (request.records = #[] → decode request.encode = .error .noRecords) ∧
      (request.records ≠ #[] → decode request.encode = .ok request) := by
  refine ⟨fun bytes => ⟨decode_of_lt, decode_of_partial, ?_, ?_⟩, ?_⟩
  · intro bare
    have whole : bytes.length = headerSize + recordSize * 0 := bare
    rw [decode_of_whole whole, if_pos rfl]
  · intro count positive whole
    have long : headerSize ≤ bytes.length := whole ▸ Nat.le_add_right 8 (16 * count)
    have decoded := decode_of_whole whole
    rw [if_neg positive.ne'] at decoded
    refine ⟨_, decoded, toNat_decodeUnsigned_header long, size_recordsAt _ _ _, ?_,
      encode_of_whole whole⟩
    intro index inside
    exact ⟨_, getElem?_recordsAt inside, toInt_recordAt bytes _⟩
  · intro request
    rw [decode_encode]
    constructor
    · intro none
      rw [if_pos (by rw [none]; rfl)]
    · intro carried
      rw [if_neg (mt Array.isEmpty_iff.mp carried)]

theorem wire_bijection_five :
    (∃ request, decode (encode ⟨5, #[.sample]⟩) = .ok request ∧
      request.iterations.toNat = 5 ∧ request.encode = encode ⟨5, #[.sample]⟩) ∧
    decode (List.replicate 16 0) = .error (.partialRecord 8) := by
  constructor
  · obtain ⟨request, decoded, iterations, -, -, encoded⟩ :=
      (wire_bijection.1 (encode ⟨5, #[.sample]⟩)).2.2.2 1 (by decide) (by decide +kernel)
    refine ⟨request, decoded, ?_, encoded⟩
    rw [iterations]
    decide +kernel
  · exact (wire_bijection.1 (List.replicate 16 0)).2.1 (by decide) (by decide)

end WalkRequest

end ComputeBench
