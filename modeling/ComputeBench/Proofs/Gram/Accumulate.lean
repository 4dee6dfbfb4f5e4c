import Mathlib
import ComputeBench.Gram.Product
import ComputeBench.Proofs.Gram.Rows

namespace ComputeBench.Gram

variable {w : Nat} {shape : Shape} {input output : Array (BitVec w)} {row : Nat}

structure Shape.Fits (shape : Shape) (inputSize outputSize : Nat) : Prop where
  input : inputSize = shape.rows * shape.cols
  output : outputSize = shape.rows * shape.rows
  inputBound : shape.rows * shape.cols < addressSpace
  outputBound : shape.rows * shape.rows < addressSpace

theorem Shape.check_eq_ok {inputSize outputSize : Nat} :
    shape.check inputSize outputSize = .ok () ↔ shape.Fits inputSize outputSize := by
  simp only [Shape.check, bind_eq_ok, checkedLength_eq_ok, requireLength_eq_ok]
  constructor
  · rintro ⟨_, ⟨inputBound, rfl⟩, _, input, _, ⟨outputBound, rfl⟩, output⟩
    exact ⟨input.symm, output.symm, inputBound, outputBound⟩
  · rintro ⟨input, output, inputBound, outputBound⟩
    exact ⟨_, ⟨inputBound, rfl⟩, (), input.symm, _, ⟨outputBound, rfl⟩, output.symm⟩

def contribution (shape : Shape) (input : Array (BitVec w)) (row column : Nat) :
    BitVec w :=
  dot (rowAt shape.cols input row) (rowAt shape.cols input column)

def addedRow (shape : Shape) (input : Array (BitVec w)) (row : Nat)
    (entries : List (BitVec w)) : List (BitVec w) :=
  entries.mapIdx fun column entry => entry + contribution shape input row column

def accumulated (shape : Shape) (input output : Array (BitVec w)) :
    Array (BitVec w) :=
  output.mapIdx fun place entry =>
    entry + contribution shape input (place / shape.rows) (place % shape.rows)

@[simp] theorem length_addedRow (shape : Shape) (input : Array (BitVec w))
    (row : Nat) (entries : List (BitVec w)) :
    (addedRow shape input row entries).length = entries.length :=
  List.length_mapIdx

@[simp] theorem size_accumulated (shape : Shape) (input output : Array (BitVec w)) :
    (accumulated shape input output).size = output.size :=
  Array.size_mapIdx

theorem getElem?_accumulated {column : Nat} (within : column < shape.rows) :
    (accumulated shape input output)[row * shape.rows + column]? =
      output[row * shape.rows + column]?.map
        (· + contribution shape input row column) := by
  rw [accumulated, Array.getElem?_mapIdx, place_div row within, place_mod row within]

theorem rowAt_accumulated (inside : row < shape.rows)
    (whole : output.size = shape.rows * shape.rows) :
    rowAt shape.rows (accumulated shape input output) row =
      addedRow shape input row (rowAt shape.rows output row) := by
  apply rowAt_eq inside
  · rw [size_accumulated, whole]
  · rw [length_addedRow, length_rowAt inside whole]
  · intro column within
    rw [getElem?_accumulated within, addedRow, List.getElem?_mapIdx, getElem?_rowAt within]

theorem addDots_eq (whole : input.size = shape.rows * shape.cols)
    (own entries : List (BitVec w)) (start : Nat)
    (room : start + entries.length ≤ shape.rows) :
    addDots shape input own start entries =
      .ok (entries.mapIdx fun offset entry =>
        entry + dot own (rowAt shape.cols input (start + offset))) := by
  induction entries generalizing start with
  | nil => rfl
  | cons entry rest ih =>
      rw [List.length_cons] at room
      have other : inputRow shape input start = .ok (rowAt shape.cols input start) :=
        stretch_row (by omega) whole
      rw [addDots, other, ok_bind, ih (start + 1) (by omega), ok_bind, List.mapIdx_cons]
      simp only [Nat.add_zero, Nat.add_assoc, Nat.add_comm 1]
      rfl

theorem addRow_eq (whole : input.size = shape.rows * shape.cols)
    (inside : row < shape.rows) {entries : List (BitVec w)}
    (room : entries.length ≤ shape.rows) :
    addRow shape input row entries = .ok (addedRow shape input row entries) := by
  have own : inputRow shape input row = .ok (rowAt shape.cols input row) :=
    stretch_row inside whole
  rw [addRow, own, ok_bind, addDots_eq whole _ entries 0 (by omega), addedRow]
  simp only [Nat.zero_add, contribution]

theorem addChunks_eq (whole : input.size = shape.rows * shape.cols)
    {chunk : Nat → List (BitVec w)}
    (length : ∀ row < shape.rows, (chunk row).length = shape.rows) (start count : Nat)
    (room : start + count ≤ shape.rows) :
    addChunks shape input start ((List.range' start count).map chunk) =
      .ok ((List.range' start count).map fun row =>
        addedRow shape input row (chunk row)) := by
  induction count generalizing start with
  | zero => rfl
  | succ count ih =>
      have inside : start < shape.rows := by omega
      rw [List.range'_succ, List.map_cons, List.map_cons, addChunks,
        addRow_eq whole inside (length start inside).le, ok_bind, ih (start + 1) (by omega)]
      rfl

theorem addRows_eq (fits : shape.Fits input.size output.size) (positive : 0 < shape.rows) :
    addRows shape input output = .ok (accumulated shape input output) := by
  have stored : (accumulated shape input output).size = shape.rows * shape.rows := by
    rw [size_accumulated, fits.output]
  have length : ∀ row < shape.rows, (rowAt shape.rows output row).length = shape.rows :=
    fun row inside => length_rowAt inside fits.output
  have added : (List.range shape.rows).map (fun row =>
      addedRow shape input row (rowAt shape.rows output row)) =
        (List.range shape.rows).map (rowAt shape.rows (accumulated shape input output)) := by
    apply List.map_congr_left
    intro row member
    exact (rowAt_accumulated (List.mem_range.mp member) fits.output).symm
  have chunks := addChunks_eq fits.input length 0 shape.rows (Nat.zero_add _).le
  rw [← List.range_eq_range', added] at chunks
  rw [addRows, chunksOf_of_pos positive, ok_bind, blocks_eq_rows positive fits.output, chunks,
    ok_bind, flatten_rowAt stored, overwrite_whole (by simp)]
  rfl

theorem accumulated_of_no_rows (fits : shape.Fits input.size output.size)
    (none : shape.rows = 0) : accumulated shape input output = output := by
  have empty : output = #[] := by
    rw [← Array.size_eq_zero_iff, fits.output, none]
  rw [empty]
  rfl

theorem accumulate_of_fits (fits : shape.Fits input.size output.size) :
    accumulate shape input output = .ok (accumulated shape input output) := by
  rw [accumulate, Shape.check_eq_ok.mpr fits, lift_refusing_ok, ok_bind]
  by_cases none : shape.rows = 0
  · rw [if_pos none, accumulated_of_no_rows fits none]
    rfl
  · rw [if_neg none, addRows_eq fits (Nat.pos_of_ne_zero none), lift_aborting_ok]

theorem accumulate_eq (shape : Shape) (input output : Array (BitVec w)) :
    accumulate shape input output = do
      shape.check input.size output.size
      return accumulated shape input output := by
  cases passed : shape.check input.size output.size with
  | error error =>
      rw [accumulate, passed, lift_refusing_error, error_bind, error_bind]
  | ok value =>
      rw [accumulate_of_fits (Shape.check_eq_ok.mp passed), lift_refusing_ok, ok_bind]
      rfl

end ComputeBench.Gram
