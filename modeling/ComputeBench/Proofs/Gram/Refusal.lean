import Mathlib
import ComputeBench.Proofs.Gram.InPlace
import ComputeBench.Proofs.Gram.Product

namespace ComputeBench.Gram

variable {w : Nat}

/-- The first check that fails on a matrix and a buffer of these lengths. -/
def Shape.refusal (shape : Shape) (inputSize outputSize : Nat) : Option Error :=
  if addressSpace ≤ shape.rows * shape.cols then some .dimensionOverflow
  else if inputSize ≠ shape.rows * shape.cols then
    some (.lengthMismatch .inputMatrix (shape.rows * shape.cols) inputSize)
  else if addressSpace ≤ shape.rows * shape.rows then some .dimensionOverflow
  else if outputSize ≠ shape.rows * shape.rows then
    some (.lengthMismatch .outputMatrix (shape.rows * shape.rows) outputSize)
  else none

theorem Shape.check_eq_refusal (shape : Shape) (inputSize outputSize : Nat) :
    shape.check inputSize outputSize =
      match shape.refusal inputSize outputSize with
      | some error => .error error
      | none => .ok () := by
  rw [check, refusal]
  by_cases inputPast : addressSpace ≤ shape.rows * shape.cols
  · rw [checkedLength, if_neg (not_lt.mpr inputPast), if_pos inputPast]
    rfl
  · rw [checkedLength, if_pos (not_le.mp inputPast), if_neg inputPast, ok_bind]
    by_cases input : inputSize = shape.rows * shape.cols
    · rw [requireLength, if_pos input.symm, if_neg (not_not.mpr input), ok_bind]
      by_cases outputPast : addressSpace ≤ shape.rows * shape.rows
      · rw [checkedLength, if_neg (not_lt.mpr outputPast), if_pos outputPast]
        rfl
      · rw [checkedLength, if_pos (not_le.mp outputPast), if_neg outputPast, ok_bind]
        by_cases output : outputSize = shape.rows * shape.rows
        · rw [requireLength, if_pos output.symm, if_neg (not_not.mpr output)]
        · rw [requireLength, if_neg (Ne.symm output), if_pos output]
    · rw [requireLength, if_neg (Ne.symm input), if_pos input]
      rfl

theorem Call.write_eq (call : Call w) (output : Array (BitVec w)) :
    call.write output =
      match call.shape.refusal call.input.size output.size with
      | some error => .error (.refused error) output
      | none => .ok () (accumulated call.shape call.input output) := by
  have checked := call.shape.check_eq_refusal call.input.size output.size
  cases refused : call.shape.refusal call.input.size output.size with
  | some error =>
      rw [refused] at checked
      exact write_of_refused checked
  | none =>
      rw [refused] at checked
      exact write_of_fits (Shape.check_eq_ok.mp checked)

/-- Sequential or split, a call is refused by the first check that fails, with its buffer as it was,
and otherwise it succeeds. A product into a fresh buffer is refused if that buffer has no address,
whatever the matrix; it aborts if its bytes, `w / 8` an entry, pass one allocation; and otherwise it
ends as the call does on a buffer of zeros. -/
theorem product_refusals (shape : Shape) (input : Array (BitVec w)) :
    (∀ (method : Method) (output : Array (BitVec w)),
      Call.reply ⟨shape, method, input⟩ output =
        .ofResult (Call.write ⟨shape, method, input⟩ output) ∧
      Call.write ⟨shape, method, input⟩ output =
        match shape.refusal input.size output.size with
        | some error => .error (.refused error) output
        | none => .ok () (accumulated shape input output)) ∧
    (addressSpace ≤ shape.rows * shape.rows →
      product shape input = .error (.refused .dimensionOverflow)) ∧
    (shape.rows * shape.rows < addressSpace →
      maxAllocation < shape.rows * shape.rows * (w / 8) →
        product shape input = .error (.aborted .capacityOverflow)) ∧
    (shape.rows * shape.rows < addressSpace →
      shape.rows * shape.rows * (w / 8) ≤ maxAllocation →
        product shape input =
          accumulate shape input (Array.replicate (shape.rows * shape.rows) 0)) := by
  refine ⟨?_, ?_, ?_, ?_⟩
  · intro method output
    exact ⟨Call.reply_eq_write _ output, Call.write_eq _ output⟩
  · intro past
    exact product_of_unaddressable past input
  · intro addressable past
    exact product_of_unstorable addressable past input
  · intro addressable storable
    exact product_of_storable addressable storable input

/-- Without columns the matrix is empty and its length passes; then the row count alone refuses the
call, refuses the fresh product or, half as long, aborts it. -/
theorem product_refusals_without_columns :
    Call.reply ⟨⟨2 ^ 32, 0⟩, .sequential, #[]⟩ #[7#64] =
        ⟨.error (.refused .dimensionOverflow), #[7#64]⟩ ∧
      addressSpace ≤ 2 ^ 32 * 2 ^ 32 ∧
      product ⟨2 ^ 32, 0⟩ (#[] : Array (BitVec 64)) = .error (.refused .dimensionOverflow) ∧
      2 ^ 31 * 2 ^ 31 < addressSpace ∧ maxAllocation < 2 ^ 31 * 2 ^ 31 * (64 / 8) ∧
      product ⟨2 ^ 31, 0⟩ (#[] : Array (BitVec 64)) = .error (.aborted .capacityOverflow) ∧
      1 * 1 < addressSpace ∧ 1 * 1 * (64 / 8) ≤ maxAllocation ∧
      product ⟨1, 0⟩ #[7#64] = accumulate ⟨1, 0⟩ #[7#64] #[0#64] := by
  obtain ⟨calls, unaddressable, -, -⟩ :=
    product_refusals ⟨2 ^ 32, 0⟩ (#[] : Array (BitVec 64))
  obtain ⟨-, -, unstorable, -⟩ := product_refusals ⟨2 ^ 31, 0⟩ (#[] : Array (BitVec 64))
  obtain ⟨-, -, -, storable⟩ := product_refusals ⟨1, 0⟩ #[7#64]
  obtain ⟨reply, written⟩ := calls .sequential #[7#64]
  refine ⟨?_, by decide, unaddressable (by decide), by decide, by decide,
    unstorable (by decide) (by decide), by decide, by decide, storable (by decide) (by decide)⟩
  rw [reply, written]
  rfl

end ComputeBench.Gram
