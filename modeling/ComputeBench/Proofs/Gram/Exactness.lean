import Mathlib
import ComputeBench.Gram.Exact
import ComputeBench.Proofs.Gram.Accumulate

namespace ComputeBench.Gram

namespace IntegerType

variable (type : IntegerType)

theorem word_value (word : BitVec type.width) : type.word (type.value word) = word := by
  unfold IntegerType.word IntegerType.value
  split
  · exact BitVec.ofInt_toInt
  · rw [BitVec.ofInt_natCast, BitVec.ofNat_toNat, BitVec.setWidth_eq]

theorem word_add (first second : Int) :
    type.word (first + second) = type.word first + type.word second :=
  BitVec.ofInt_add first second

theorem word_mul (first second : Int) :
    type.word (first * second) = type.word first * type.word second :=
  BitVec.ofInt_mul first second

theorem word_sum (values : List Int) :
    type.word values.sum = (values.map type.word).sum := by
  induction values with
  | nil => rfl
  | cons value rest ih => rw [List.sum_cons, word_add, ih, List.map_cons, List.sum_cons]

theorem dot_eq_word (first second : List (BitVec type.width)) :
    dot first second =
      type.word (List.zipWith (· * ·) (first.map type.value)
        (second.map type.value)).sum := by
  rw [dot_eq_sum, word_sum, List.map_zipWith, List.zipWith_map]
  simp only [word_mul, word_value]

end IntegerType

namespace Exact

variable {matrix : Array Int} {rows cols : Nat}

theorem rowAt_eq_entries {row : Nat} (inside : row < rows)
    (whole : matrix.size = rows * cols) :
    rowAt cols matrix row = (List.range cols).map (entry matrix cols row) :=
  rowAt_eq_map_getD inside whole 0

theorem gram_eq_sum_rows {first second : Nat} (firstInside : first < rows)
    (secondInside : second < rows) (whole : matrix.size = rows * cols) :
    gram matrix cols first second =
      (List.zipWith (· * ·) (rowAt cols matrix first) (rowAt cols matrix second)).sum := by
  rw [rowAt_eq_entries firstInside whole, rowAt_eq_entries secondInside whole,
    List.zipWith_map, List.zipWith_self]
  rfl

end Exact

theorem contribution_eq_word (type : IntegerType) {shape : Shape}
    {input : Array (BitVec type.width)} (whole : input.size = shape.rows * shape.cols)
    {first second : Nat} (firstInside : first < shape.rows)
    (secondInside : second < shape.rows) :
    contribution shape input first second =
      type.word (Exact.gram (input.map type.value) shape.cols first second) := by
  have exactWhole : (input.map type.value).size = shape.rows * shape.cols := by
    rw [Array.size_map, whole]
  rw [contribution, type.dot_eq_word, ← rowAt_map, ← rowAt_map,
    Exact.gram_eq_sum_rows firstInside secondInside exactWhole]

theorem value_accumulated (type : IntegerType) {shape : Shape}
    {input output : Array (BitVec type.width)} (fits : shape.Fits input.size output.size)
    {first second : Nat} (firstInside : first < shape.rows)
    (secondInside : second < shape.rows) :
    Exact.entry ((accumulated shape input output).map type.value) shape.rows first second =
      type.represent (Exact.entry (output.map type.value) shape.rows first second +
        Exact.gram (input.map type.value) shape.cols first second) := by
  have inside := place_lt firstInside fits.output secondInside
  have stored : (accumulated shape input output)[first * shape.rows + second]? =
      some (output[first * shape.rows + second] +
        contribution shape input first second) := by
    rw [getElem?_accumulated secondInside, Array.getElem?_eq_getElem inside,
      Option.map_some]
  have sum : type.value (output[first * shape.rows + second] +
        contribution shape input first second) =
      type.represent (type.value output[first * shape.rows + second] +
        Exact.gram (input.map type.value) shape.cols first second) := by
    rw [← type.value_word, type.word_add, type.word_value,
      contribution_eq_word type fits.input firstInside secondInside]
  simp only [Exact.entry, Array.getD_eq_getD_getElem?, Array.getElem?_map, stored,
    Array.getElem?_eq_getElem inside, Option.map_some, Option.getD_some, sum]

/-- Every well-shaped call answers, and each place of its result is the old entry plus the exact
dot product of two rows of the matrix, reduced once to the integer type. -/
theorem accumulate_exact (type : IntegerType) (rows cols : Nat)
    (input output : Array (BitVec type.width))
    (matrix : input.size = rows * cols) (buffer : output.size = rows * rows)
    (matrixBound : rows * cols < addressSpace) (bufferBound : rows * rows < addressSpace) :
    (∀ row < rows, (row + 1) * cols < addressSpace) ∧
    ∃ result, accumulate ⟨rows, cols⟩ input output = .ok result ∧
      result.size = output.size ∧
      ∀ first < rows, ∀ second < rows,
        Exact.entry (result.map type.value) rows first second =
          type.represent (Exact.entry (output.map type.value) rows first second +
            Exact.gram (input.map type.value) cols first second) := by
  have fits : Shape.Fits ⟨rows, cols⟩ input.size output.size :=
    ⟨matrix, buffer, matrixBound, bufferBound⟩
  refine ⟨?_, accumulated ⟨rows, cols⟩ input output, ?_, ?_, ?_⟩
  · intro row inside
    exact (Nat.mul_le_mul_right cols inside).trans_lt matrixBound
  · rw [accumulate_eq, Shape.check_eq_ok.mpr fits]
    rfl
  · exact size_accumulated _ _ _
  · intro first firstInside second secondInside
    exact value_accumulated type fits firstInside secondInside

theorem accumulate_signed_bytes :
    #[100#8, 3#8, 128#8, 1#8].size = 2 * 2 ∧ #[1#8, 0#8, 0#8, 255#8].size = 2 * 2 ∧
      2 * 2 < addressSpace ∧
      ∃ result, accumulate ⟨2, 2⟩ #[100#8, 3#8, 128#8, 1#8] #[1#8, 0#8, 0#8, 255#8] =
          .ok result ∧
        Exact.entry (result.map (IntegerType.value ⟨true, 8⟩)) 2 0 0 = 26 ∧
        Exact.entry (result.map (IntegerType.value ⟨true, 8⟩)) 2 0 1 = 3 := by
  obtain ⟨-, result, ran, -, entries⟩ := accumulate_exact ⟨true, 8⟩ 2 2
    #[100#8, 3#8, 128#8, 1#8] #[1#8, 0#8, 0#8, 255#8]
    (by decide) (by decide) (by decide) (by decide)
  refine ⟨by decide, by decide, by decide, result, ran, ?_, ?_⟩
  · rw [entries 0 (by decide) 0 (by decide)]
    decide +kernel
  · rw [entries 0 (by decide) 1 (by decide)]
    decide +kernel

end ComputeBench.Gram
