import Mathlib
import ComputeBench.Proofs.Workload.Walks

namespace ComputeBench

theorem WalkRequest.size_of_decode {bytes : Bytes} {request : WalkRequest}
    (decoded : decode bytes = .ok request) : 24 ≤ bytes.length ∧ bytes.length % 16 = 8 := by
  obtain ⟨carried, length, -⟩ := whole_of_decode decoded
  simp only [headerSize, wordSize, recordSize] at length
  omega

namespace Workload

def requestSize (byteCount : Nat) : Nat := headerSize + recordSize * recordCount byteCount

theorem requestSize_isLeast (byteCount : Nat) :
    IsLeast {size | byteCount ≤ size ∧ 24 ≤ size ∧ size % 16 = 8} (requestSize byteCount) := by
  have rounded : requestSize byteCount = 8 + 16 * max 1 ((byteCount - 8 + 15) / 16) := rfl
  constructor
  · have enough : byteCount ≤ requestSize byteCount := by omega
    have atLeastOne : 24 ≤ requestSize byteCount := by omega
    have whole : requestSize byteCount % 16 = 8 := by omega
    exact ⟨enough, atLeastOne, whole⟩
  · rintro size ⟨enough, atLeastOne, whole⟩
    omega

theorem requestSize_requestSize (byteCount : Nat) :
    requestSize (requestSize byteCount) = requestSize byteCount := by
  have itself : IsLeast {size | requestSize byteCount ≤ size ∧ 24 ≤ size ∧ size % 16 = 8}
      (requestSize byteCount) :=
    ⟨⟨le_rfl, (requestSize_isLeast byteCount).1.2⟩, fun _ member => member.1⟩
  exact (requestSize_isLeast (requestSize byteCount)).unique itself

theorem recordCount_requestSize (byteCount : Nat) :
    recordCount (requestSize byteCount) = recordCount byteCount := by
  have bodies := Nat.add_left_cancel (requestSize_requestSize byteCount)
  exact Nat.eq_of_mul_eq_mul_left recordSize_pos bodies

theorem requestSize_le {byteCount : Nat} (fits : byteCount ≤ 2 ^ 63 - 8) :
    requestSize byteCount ≤ 2 ^ 63 - 8 :=
  (requestSize_isLeast byteCount).2 ⟨fits, by decide, by decide⟩

/-- A generated request is the least one that fills the size asked for: its own size is the least
that is enough, and no request from the wire is smaller and still enough. It carries the count and
nothing but sample records, and asking for its own size generates it again. -/
theorem walkRequest_least_size (iterations : UInt64) (byteCount : Nat)
    (fits : byteCount ≤ 2 ^ 63 - 8) :
    ∃ bytes count, walkRequest iterations byteCount = .ok bytes ∧
      IsLeast {size | byteCount ≤ size ∧ 24 ≤ size ∧ size % 16 = 8} bytes.length ∧
      bytes.length = 8 + 16 * count ∧
      WalkRequest.decode bytes = .ok ⟨iterations, Array.replicate count .sample⟩ ∧
      (∀ other request, WalkRequest.decode other = .ok request → byteCount ≤ other.length →
        bytes.length ≤ other.length) ∧
      walkRequest iterations bytes.length = .ok bytes := by
  have length : (WalkRequest.encode
      ⟨iterations, Array.replicate (recordCount byteCount) .sample⟩).length =
        requestSize byteCount := by
    rw [WalkRequest.length_encode, Array.size_replicate, requestSize]
  have least := requestSize_isLeast byteCount
  refine ⟨_, recordCount byteCount, walkRequest_eq iterations fits, length ▸ least, length, ?_,
    ?_, ?_⟩
  · apply WalkRequest.decode_encode_of_carried
    rw [Array.size_replicate]
    exact recordCount_pos byteCount
  · intro other request decoded enough
    rw [length]
    exact least.2 ⟨enough, WalkRequest.size_of_decode decoded⟩
  · rw [length, walkRequest_eq iterations (requestSize_le fits), recordCount_requestSize]

/-- A byte more than one record has room for makes two. The greatest size that fits is its own. -/
theorem walkRequest_least_size_boundaries :
    25 ≤ 2 ^ 63 - 8 ∧
      (∃ bytes, walkRequest 7 25 = .ok bytes ∧ bytes.length = 40 ∧
        WalkRequest.decode bytes = .ok ⟨7, #[.sample, .sample]⟩ ∧
        walkRequest 7 40 = .ok bytes) ∧
      ∃ bytes, walkRequest 7 (2 ^ 63 - 8) = .ok bytes ∧ bytes.length = 2 ^ 63 - 8 := by
  refine ⟨by decide, ?_, ?_⟩
  · obtain ⟨bytes, count, generated, least, length, decoded, -, again⟩ :=
      walkRequest_least_size 7 25 (by decide)
    have enough : 25 ≤ bytes.length := least.1.1
    have upper : bytes.length ≤ 40 := least.2 ⟨by decide, by decide, by decide⟩
    obtain rfl : count = 2 := by omega
    have forty : bytes.length = 40 := length
    rw [forty] at again
    exact ⟨bytes, generated, forty, decoded, again⟩
  · obtain ⟨bytes, -, generated, least, -⟩ := walkRequest_least_size 7 (2 ^ 63 - 8) le_rfl
    exact ⟨bytes, generated, le_antisymm (least.2 ⟨le_rfl, by decide, by decide⟩) least.1.1⟩

end Workload

end ComputeBench
