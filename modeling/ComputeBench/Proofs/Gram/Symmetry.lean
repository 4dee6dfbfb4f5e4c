import Mathlib
import ComputeBench.Bytes.Blocks
import ComputeBench.Proofs.Gram.Product
import ComputeBench.Proofs.Gram.Session

namespace ComputeBench.Gram

variable {w : Nat} {shape : Shape} {input output : Array (BitVec w)}

theorem dot_comm (first second : List (BitVec w)) : dot first second = dot second first := by
  induction first generalizing second with
  | nil =>
      cases second with
      | nil => rfl
      | cons other others => rfl
  | cons entry rest ih =>
      cases second with
      | nil => rfl
      | cons other others =>
          rw [dot_cons, dot_cons, ih, BitVec.mul_comm]

theorem contribution_comm (first second : Nat) :
    contribution shape input first second = contribution shape input second first :=
  dot_comm _ _

/-- The row-major matrix whose rows are rows of another, each named by its place there. -/
def pickRows (shape : Shape) (input : Array (BitVec w))
    (order : Fin shape.rows → Fin shape.rows) : Array (BitVec w) :=
  ((List.finRange shape.rows).flatMap fun row => rowAt shape.cols input (order row)).toArray

section

variable (whole : input.size = shape.rows * shape.cols)
  (order : Fin shape.rows → Fin shape.rows)
include whole

theorem length_of_mem_pickRows :
    ∀ row ∈ List.finRange shape.rows,
      (rowAt shape.cols input (order row)).length = shape.cols :=
  fun row _ => length_rowAt (order row).isLt whole

theorem size_pickRows : (pickRows shape input order).size = shape.rows * shape.cols := by
  rw [pickRows, List.size_toArray, length_flatMap_of_mem (length_of_mem_pickRows whole order),
    List.length_finRange, Nat.mul_comm]

theorem rowAt_pickRows (row : Fin shape.rows) :
    rowAt shape.cols (pickRows shape input order) row =
      rowAt shape.cols input (order row) := by
  have named : (List.finRange shape.rows)[(row : Nat)]? = some row := by
    simp
  exact rowAt_flatMap (length_of_mem_pickRows whole order) named

theorem contribution_pickRows (first second : Fin shape.rows) :
    contribution shape (pickRows shape input order) first second =
      contribution shape input (order first) (order second) := by
  rw [contribution, rowAt_pickRows whole, rowAt_pickRows whole]
  rfl

end

theorem Call.entryAt_place (call : Call w) (row : Nat) {column : Nat}
    (within : column < call.shape.rows) :
    call.entryAt (row * call.shape.rows + column) =
      contribution call.shape call.input row column := by
  rw [entryAt, place_div row within, place_mod row within]

theorem Call.addend_comm (call : Call w) (size : Nat) (first second : Fin call.shape.rows) :
    call.addend size (first * call.shape.rows + second) =
      call.addend size (second * call.shape.rows + first) := by
  rw [addend, addend, entryAt_place _ _ second.isLt, entryAt_place _ _ first.isLt,
    contribution_comm]

theorem Call.getD_reply (call : Call w) {place : Nat} (inside : place < output.size) :
    (call.reply output).output.getD place 0 =
      output.getD place 0 + call.addend output.size place := by
  rw [Array.getD_eq_getD_getElem?, Array.getD_eq_getD_getElem?, getElem?_reply,
    Array.getElem?_eq_getElem inside]
  rfl

theorem Call.reply_difference (call : Call w) (output : Array (BitVec w))
    (first second : Fin call.shape.rows) :
    (call.reply output).output.getD (first * call.shape.rows + second) 0 -
        (call.reply output).output.getD (second * call.shape.rows + first) 0 =
      output.getD (first * call.shape.rows + second) 0 -
        output.getD (second * call.shape.rows + first) 0 := by
  cases checked : call.shape.check call.input.size output.size with
  | error error =>
      have refused : (call.reply output).output = output := by
        rw [reply, perform_eq, verdict, checked]
        rfl
      rw [refused]
  | ok passed =>
      have fits := Shape.check_eq_ok.mp checked
      rw [call.getD_reply (place_lt first.isLt fits.output second.isLt),
        call.getD_reply (place_lt second.isLt fits.output first.isLt), call.addend_comm,
        add_sub_add_right_eq_sub]

/-- The product is symmetric. A matrix whose rows are permuted has the product whose entries are
permuted, both as rows and as columns. A call leaves any two entries across the diagonal as far
apart as they were in the buffer. -/
theorem product_symmetric (shape : Shape) (input : Array (BitVec w)) :
    (∀ result, product shape input = .ok result →
      result.size = shape.rows * shape.rows ∧
      (∀ first second : Fin shape.rows,
        result[first * shape.rows + second]? = result[second * shape.rows + first]?) ∧
      ∀ order : Equiv.Perm (Fin shape.rows),
        ∃ permuted, product shape (pickRows shape input order) = .ok permuted ∧
          permuted.size = shape.rows * shape.rows ∧
          ∀ first second : Fin shape.rows,
            permuted[first * shape.rows + second]? =
              result[order first * shape.rows + order second]?) ∧
    ∀ (method : Method) (output : Array (BitVec w)) (first second : Fin shape.rows),
      (Call.reply ⟨shape, method, input⟩ output).output.getD (first * shape.rows + second) 0 -
          (Call.reply ⟨shape, method, input⟩ output).output.getD
            (second * shape.rows + first) 0 =
        output.getD (first * shape.rows + second) 0 -
          output.getD (second * shape.rows + first) 0 := by
  refine ⟨?_, fun method output => Call.reply_difference ⟨shape, method, input⟩ output⟩
  intro result produced
  obtain ⟨storable, fits, rfl⟩ := product_eq_ok.mp produced
  refine ⟨size_gramOf shape input, ?_, ?_⟩
  · intro first second
    rw [getElem?_gramOf first.isLt second.isLt, getElem?_gramOf second.isLt first.isLt,
      contribution_comm]
  · intro order
    have permutedFits : shape.Fits (pickRows shape input order).size
        (shape.rows * shape.rows) :=
      ⟨size_pickRows fits.input order, rfl, fits.inputBound, fits.outputBound⟩
    refine ⟨_, product_eq_ok.mpr ⟨storable, permutedFits, rfl⟩, size_gramOf _ _, ?_⟩
    intro first second
    rw [getElem?_gramOf first.isLt second.isLt,
      getElem?_gramOf (order first).isLt (order second).isLt,
      contribution_pickRows fits.input order]

theorem product_symmetric_rotated :
    product ⟨3, 2⟩ #[100#8, 3#8, 128#8, 1#8, 200#8, 5#8] =
        .ok #[25#8, 3#8, 47#8, 3#8, 1#8, 5#8, 47#8, 5#8, 89#8] ∧
      (∃ rotated,
        product ⟨3, 2⟩ (pickRows ⟨3, 2⟩ #[100#8, 3#8, 128#8, 1#8, 200#8, 5#8]
          (finRotate 3)) = .ok rotated ∧
        rotated.size = 9 ∧ rotated[1]? = some 5#8 ∧ rotated[2]? = some 3#8) ∧
      (Call.reply ⟨⟨3, 2⟩, .sequential, #[100#8, 3#8, 128#8, 1#8, 200#8, 5#8]⟩
            #[0#8, 200#8, 0#8, 7#8, 0#8, 0#8, 0#8, 0#8, 0#8]).output.getD 1 0 -
          (Call.reply ⟨⟨3, 2⟩, .sequential, #[100#8, 3#8, 128#8, 1#8, 200#8, 5#8]⟩
            #[0#8, 200#8, 0#8, 7#8, 0#8, 0#8, 0#8, 0#8, 0#8]).output.getD 3 0 = 193#8 := by
  have produced : product ⟨3, 2⟩ #[100#8, 3#8, 128#8, 1#8, 200#8, 5#8] =
      .ok #[25#8, 3#8, 47#8, 3#8, 1#8, 5#8, 47#8, 5#8, 89#8] := rfl
  obtain ⟨fresh, accumulating⟩ :=
    product_symmetric ⟨3, 2⟩ #[100#8, 3#8, 128#8, 1#8, 200#8, 5#8]
  obtain ⟨-, -, permuted⟩ := fresh _ produced
  obtain ⟨rotated, rotatedProduct, size, entries⟩ := permuted (finRotate 3)
  refine ⟨produced, ⟨rotated, rotatedProduct, size, ?_, ?_⟩, ?_⟩
  · exact entries 0 1
  · exact entries 0 2
  · exact accumulating .sequential #[0#8, 200#8, 0#8, 7#8, 0#8, 0#8, 0#8, 0#8, 0#8] 0 1

end ComputeBench.Gram
