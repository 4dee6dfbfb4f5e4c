import Mathlib
import ComputeBench.Proofs.Message.MatrixResponse

namespace ComputeBench

theorem square_addressable {rows : Nat} : rows * rows < addressSpace ↔ rows < 2 ^ 32 := by
  simp only [addressSpace]
  constructor
  · intro addressable
    by_contra large
    have square := Nat.mul_le_mul (not_lt.mp large) (not_lt.mp large)
    omega
  · intro small
    have square : rows * rows < 2 ^ 32 * 2 ^ 32 := Nat.mul_self_lt_mul_self small
    omega

namespace MatrixRequest

variable {request : MatrixRequest} {bytes : Bytes}

theorem values_of_ofWords {header : Int64} {values : List Int64}
    (accepted : ofWords header values = .ok request) : request.values.toList = values := by
  unfold ofWords at accepted
  split at accepted
  · cases accepted
  · cases accepted
    rfl

theorem whole_of_decode (decoded : decode bytes = .ok request) :
    request.Whole ∧ bytes.length = headerSize + wordSize * request.values.size := by
  by_cases long : headerSize ≤ bytes.length
  · by_cases words : wordSize ∣ bytes.length - headerSize
    · obtain ⟨count, body⟩ := words
      have length : bytes.length = headerSize + wordSize * count := by omega
      rw [decode_of_whole length] at decoded
      have size : request.values.size = count := by
        rw [← Array.length_toList, values_of_ofWords decoded, length_wordsAt]
      exact ⟨whole_of_ofWords decoded, size ▸ length⟩
    · rw [decode_of_partial long words] at decoded
      cases decoded
  · rw [decode, splitHeader_of_lt (not_le.mp long), error_bind] at decoded
    cases decoded

theorem encode_of_ofWords {count : Nat} (length : bytes.length = headerSize + wordSize * count)
    (accepted : ofWords (wordAt bytes 0) (wordsAt bytes headerSize count) = .ok request) :
    request.encode = bytes := by
  by_cases divides : 0 < (wordAt bytes 0).toInt ∧
      (wordAt bytes 0).toInt ∣ (wordsAt bytes headerSize count).length
  · rw [ofWords_of_divides divides.1 divides.2] at accepted
    cases accepted
    exact encode_of_whole length divides.1
  · rw [not_and_or, not_lt] at divides
    rw [ofWords_of_not_divides divides] at accepted
    cases accepted

theorem encode_of_decode (decoded : decode bytes = .ok request) : request.encode = bytes := by
  have length := (whole_of_decode decoded).2
  exact encode_of_ofWords length (decode_of_whole length ▸ decoded)

/-- A request from the wire never asks for more storage than it came in. -/
theorem write_of_decode (decoded : decode bytes = .ok request)
    (stored : bytes.length ≤ maxAllocation) : request.write = .ok bytes := by
  have length := (whole_of_decode decoded).2
  have reserved : (request.values.size + 1) * wordSize ≤ maxAllocation := by
    rw [Nat.add_one_mul, Nat.mul_comm, Nat.add_comm]
    exact length ▸ stored
  exact writeMatrix_eq_ok.mpr ⟨reserved, encode_of_decode decoded⟩

theorem run_of_product_error {fault : Fault} (failed : request.product = .error fault) :
    request.run = .error fault := by
  rw [run, failed, error_bind]

theorem product_of_unaddressable (past : 2 ^ 32 ≤ request.rows) :
    request.product = .error (.refused .dimensionOverflow) := by
  have square : addressSpace ≤ request.shape.rows * request.shape.rows :=
    not_lt.mp (mt square_addressable.mp (not_lt.mpr past))
  rw [product, Gram.product_of_unaddressable square, error_bind]

theorem product_of_unstorable (past : 2 ^ 30 ≤ request.rows)
    (addressable : request.rows < 2 ^ 32) :
    request.product = .error (.aborted .capacityOverflow) := by
  have bytes : maxAllocation < request.shape.rows * request.shape.rows * (64 / 8) :=
    not_le.mp (mt square_storable.mp (not_lt.mpr past))
  rw [product, Gram.product_of_unstorable (square_addressable.mpr addressable) bytes,
    error_bind]

theorem product_of_answerable (answerable : request.Answerable)
    (bounded : request.values.size < addressSpace) : request.product = .ok request.gram := by
  have fits : request.shape.Fits (request.values.map Int64.toBitVec).size
      (request.rows * request.rows) := by
    rw [Array.size_map]
    exact ⟨answerable.filled, rfl, answerable.filled ▸ bounded,
      square_lt_addressSpace answerable.storable⟩
  have entries := Gram.product_eq_ok.mpr
    ⟨square_storable.mpr answerable.storable, fits, rfl⟩
  rw [product, entries, ok_bind]
  rfl

theorem run_of_unstorable (past : 2 ^ 30 ≤ request.rows) (addressable : request.rows < 2 ^ 32) :
    request.run = .error (.aborted .capacityOverflow) :=
  run_of_product_error (product_of_unstorable past addressable)

theorem run_of_unaddressable (past : 2 ^ 32 ≤ request.rows) :
    request.run = .error (.refused .dimensionOverflow) :=
  run_of_product_error (product_of_unaddressable past)

theorem window_of_aborted (filled : request.values.size = request.rows * request.cols)
    (bounded : request.values.size < addressSpace) {abort : Abort}
    (stopped : request.product = .error (.aborted abort) ∨
      request.run = .error (.aborted abort)) :
    2 ^ 30 ≤ request.rows ∧ request.rows < 2 ^ 32 := by
  cases lt_or_ge request.rows (2 ^ 30) with
  | inl storable =>
      rw [product_of_answerable ⟨storable, filled⟩ bounded,
        run_of_answerable ⟨storable, filled⟩ bounded] at stopped
      cases stopped with
      | inl stopped => cases stopped
      | inr stopped => cases stopped
  | inr past =>
      cases lt_or_ge request.rows (2 ^ 32) with
      | inl addressable => exact ⟨past, addressable⟩
      | inr far =>
          rw [product_of_unaddressable far, run_of_unaddressable far] at stopped
          cases stopped with
          | inl stopped => cases stopped
          | inr stopped => cases stopped

/-- The service answers a request from the wire, or refuses it, unless the row count lies in one
window: the square is still an address, but its words no longer fit one allocation. Only there does
the call abort, and it always does. -/
theorem decoded_aborts_iff (fits : bytes.length ≤ maxAllocation)
    (decoded : decode bytes = .ok request) :
    ((∃ abort, request.product = .error (.aborted abort) ∨
        request.run = .error (.aborted abort)) ↔
      2 ^ 30 ≤ request.rows ∧ request.rows < 2 ^ 32) ∧
    (request.rows < 2 ^ 30 → ∃ entries response,
      request.product = .ok entries ∧ request.run = .ok response) ∧
    (2 ^ 30 ≤ request.rows → request.rows < 2 ^ 32 →
      request.product = .error (.aborted .capacityOverflow) ∧
        request.run = .error (.aborted .capacityOverflow)) ∧
    (2 ^ 32 ≤ request.rows →
      request.product = .error (.refused .dimensionOverflow) ∧
        request.run = .error (.refused .dimensionOverflow)) := by
  obtain ⟨whole, length⟩ := whole_of_decode decoded
  have bounded : request.values.size < addressSpace := by
    simp only [maxAllocation, headerSize, wordSize, addressSpace] at fits length ⊢
    omega
  refine ⟨⟨?_, ?_⟩, ?_, ?_, ?_⟩
  · intro aborted
    obtain ⟨abort, stopped⟩ := aborted
    exact window_of_aborted whole.filled bounded stopped
  · intro window
    exact ⟨_, .inl (product_of_unstorable window.1 window.2)⟩
  · intro storable
    exact ⟨_, _, product_of_answerable ⟨storable, whole.filled⟩ bounded,
      run_of_answerable ⟨storable, whole.filled⟩ bounded⟩
  · intro past addressable
    exact ⟨product_of_unstorable past addressable, run_of_unstorable past addressable⟩
  · intro past
    exact ⟨product_of_unaddressable past, run_of_unaddressable past⟩

/-- The last row count before the window, on a request of its header alone. -/
theorem decoded_answered_below_window :
    ([0xff, 0xff, 0xff, 0x3f, 0, 0, 0, 0] : Bytes).length ≤ maxAllocation ∧
      ∃ request, decode [0xff, 0xff, 0xff, 0x3f, 0, 0, 0, 0] = .ok request ∧
        request.rows = 2 ^ 30 - 1 ∧ request.cols = 0 ∧
          ∃ response, request.run = .ok response := by
  have decoded : decode [0xff, 0xff, 0xff, 0x3f, 0, 0, 0, 0] = .ok ⟨2 ^ 30 - 1, 0, #[]⟩ := by
    decide +kernel
  obtain ⟨-, answered, -, -⟩ := decoded_aborts_iff (by decide) decoded
  obtain ⟨entries, response, -, ran⟩ := answered (by decide)
  exact ⟨by decide, _, decoded, rfl, rfl, response, ran⟩

/-- The first row count inside the window, on a request of its header alone. -/
theorem header_only_request_aborts :
    ∃ request, decode [0, 0, 0, 0x40, 0, 0, 0, 0] = .ok request ∧
      request.rows = 2 ^ 30 ∧ request.cols = 0 ∧
        request.product = .error (.aborted .capacityOverflow) ∧
          request.run = .error (.aborted .capacityOverflow) := by
  have decoded : decode [0, 0, 0, 0x40, 0, 0, 0, 0] = .ok ⟨2 ^ 30, 0, #[]⟩ := by
    decide +kernel
  have aborted : product ⟨2 ^ 30, 0, #[]⟩ = .error (.aborted .capacityOverflow) :=
    product_of_unstorable (by decide) (by decide)
  exact ⟨_, decoded, rfl, rfl, aborted, run_of_product_error aborted⟩

end MatrixRequest

end ComputeBench
