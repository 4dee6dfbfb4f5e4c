import Mathlib
import ComputeBench.Bytes.Blocks
import ComputeBench.Proofs.Gram.Session

namespace ComputeBench.Gram

variable {w : Nat} {shape : Shape} {input output : Array (BitVec w)} {columns : List Nat}

/-- The row-major matrix of some columns of a matrix, in the order in which they are named. -/
def pick (shape : Shape) (input : Array (BitVec w)) (columns : List Nat) :
    Array (BitVec w) :=
  ((List.range shape.rows).flatMap fun row =>
    columns.map fun column => input.getD (row * shape.cols + column) 0).toArray

def Call.onColumns (shape : Shape) (input : Array (BitVec w)) (columns : List Nat) :
    Call w :=
  ⟨⟨shape.rows, columns.length⟩, .sequential, pick shape input columns⟩

@[simp] theorem size_pick (shape : Shape) (input : Array (BitVec w)) (columns : List Nat) :
    (pick shape input columns).size = shape.rows * columns.length := by
  rw [pick, List.size_toArray, length_flatMap_of_mem fun _ _ => List.length_map _,
    List.length_range, Nat.mul_comm]

theorem rowAt_pick {row : Nat} (inside : row < shape.rows) :
    rowAt columns.length (pick shape input columns) row =
      columns.map fun column => input.getD (row * shape.cols + column) 0 :=
  rowAt_flatMap (fun _ _ => List.length_map _) (List.getElem?_range inside)

theorem pick_range (whole : input.size = shape.rows * shape.cols) :
    pick shape input (List.range shape.cols) = input := by
  have rows : ∀ row ∈ List.range shape.rows,
      ((List.range shape.cols).map fun column => input.getD (row * shape.cols + column) 0) =
        rowAt shape.cols input row := fun row member =>
    (rowAt_eq_map_getD (List.mem_range.mp member) whole 0).symm
  rw [pick, List.flatMap_def, List.map_congr_left rows, flatten_rowAt whole]

namespace Call

def term (shape : Shape) (input : Array (BitVec w)) (place column : Nat) : BitVec w :=
  input.getD (place / shape.rows * shape.cols + column) 0 *
    input.getD (place % shape.rows * shape.cols + column) 0

theorem onColumns_range (whole : input.size = shape.rows * shape.cols) :
    onColumns shape input (List.range shape.cols) = ⟨shape, .sequential, input⟩ := by
  rw [onColumns, pick_range whole, List.length_range]

theorem onColumns_fits (fits : shape.Fits input.size output.size)
    (few : columns.length ≤ shape.cols) :
    Shape.Fits ⟨shape.rows, columns.length⟩ (pick shape input columns).size output.size where
  input := size_pick shape input columns
  output := fits.output
  inputBound := (Nat.mul_le_mul_left _ few).trans_lt fits.inputBound
  outputBound := fits.outputBound

theorem verdict_onColumns (fits : shape.Fits input.size output.size)
    (few : columns.length ≤ shape.cols) :
    (onColumns shape input columns).verdict output.size = .ok () := by
  rw [verdict]
  exact lift_refusing_eq_ok.mpr (Shape.check_eq_ok.mpr (onColumns_fits fits few))

theorem addend_onColumns (fits : shape.Fits input.size output.size)
    (few : columns.length ≤ shape.cols) {place : Nat} (inside : place < output.size) :
    (onColumns shape input columns).addend output.size place =
      (columns.map (term shape input place)).sum := by
  rw [fits.output] at inside
  have positive : 0 < shape.rows := Nat.pos_of_mul_pos_right (Nat.zero_lt_of_lt inside)
  have first : rowAt columns.length (pick shape input columns) (place / shape.rows) = _ :=
    rowAt_pick (Nat.div_lt_of_lt_mul inside)
  have second : rowAt columns.length (pick shape input columns) (place % shape.rows) = _ :=
    rowAt_pick (Nat.mod_lt place positive)
  rw [addend, verdict_onColumns fits few]
  refine (if_pos rfl).trans ?_
  rw [entryAt, onColumns, contribution, first, second, dot_eq_sum, List.zipWith_map,
    List.zipWith_self]
  rfl

end Call

theorem length_le_of_mem_blocks {blocks : List (List Nat)} {block : List Nat}
    (permuted : blocks.flatten.Perm (List.range shape.cols)) (member : block ∈ blocks) :
    block.length ≤ shape.cols := by
  have within := (List.sublist_flatten_of_mem member).length_le
  rwa [permuted.length_eq, List.length_range] at within

theorem sum_addends_onColumns (fits : shape.Fits input.size output.size)
    {blocks : List (List Nat)} (permuted : blocks.flatten.Perm (List.range shape.cols))
    {place : Nat} (inside : place < output.size) :
    ((blocks.map (Call.onColumns shape input)).map fun call =>
        call.addend output.size place).sum =
      Call.addend ⟨shape, .sequential, input⟩ output.size place := by
  have each : ∀ block ∈ blocks,
      (Call.onColumns shape input block).addend output.size place =
        (block.map (Call.term shape input place)).sum := fun block member =>
    Call.addend_onColumns fits (length_le_of_mem_blocks permuted member) inside
  have all : (List.range shape.cols).length ≤ shape.cols := List.length_range.le
  calc
    ((blocks.map (Call.onColumns shape input)).map fun call =>
          call.addend output.size place).sum =
        (blocks.map fun block => (block.map (Call.term shape input place)).sum).sum := by
      rw [List.map_map]
      exact congrArg List.sum (List.map_congr_left each)
    _ = (blocks.flatten.map (Call.term shape input place)).sum := by
      rw [List.map_flatten, List.sum_flatten, List.map_map]
      rfl
    _ = ((List.range shape.cols).map (Call.term shape input place)).sum :=
      (permuted.map _).sum_eq
    _ = Call.addend ⟨shape, .sequential, input⟩ output.size place := by
      rw [← Call.addend_onColumns fits all inside, Call.onColumns_range fits.input]

theorem outcomes_onColumns (fits : shape.Fits input.size output.size)
    {blocks : List (List Nat)} (permuted : blocks.flatten.Perm (List.range shape.cols)) :
    (replies (blocks.map (Call.onColumns shape input)) output).map Reply.outcome =
      blocks.map fun _ => .ok () := by
  rw [outcomes_replies, List.map_map]
  apply List.map_congr_left
  intro block member
  exact Call.verdict_onColumns fits (length_le_of_mem_blocks permuted member)

/-- However the columns of a matrix are permuted and cut into blocks, and in whatever order the
blocks are added, one call each, every call succeeds and together they leave the buffer that the one
call with the whole matrix leaves. -/
theorem blocks_eq_whole (shape : Shape) (input output : Array (BitVec w))
    (fits : shape.Fits input.size output.size) (columns : List Nat)
    (permuted : columns.Perm (List.range shape.cols)) (blocks : List (List Nat))
    (divided : blocks.flatten = columns) (order : List (List Nat))
    (ordered : order.Perm blocks) :
    (replies (order.map (Call.onColumns shape input)) output).map Reply.outcome =
        order.map (fun _ => .ok ()) ∧
      (Call.reply ⟨shape, .sequential, input⟩ output).outcome = .ok () ∧
      finalOutput (order.map (Call.onColumns shape input)) output =
        (Call.reply ⟨shape, .sequential, input⟩ output).output := by
  have covers : order.flatten.Perm (List.range shape.cols) := by
    rw [← divided] at permuted
    exact ordered.flatten.trans permuted
  refine ⟨outcomes_onColumns fits covers, ?_, ?_⟩
  · rw [Call.outcome_reply, Call.verdict]
    exact lift_refusing_eq_ok.mpr (Shape.check_eq_ok.mpr fits)
  · have whole : finalOutput [⟨shape, .sequential, input⟩] output =
        (Call.reply ⟨shape, .sequential, input⟩ output).output := rfl
    -- the call with the whole matrix is the session of one block that has all columns
    rw [← whole]
    apply finalOutput_eq_of_addends
    intro place inside
    rw [sum_addends_onColumns fits covers inside, List.map_singleton, List.sum_singleton]

/-- Three blocks, one of them empty, of three columns in another order, on bytes that wrap. -/
theorem blocks_eq_whole_three :
    Shape.Fits ⟨2, 3⟩ #[100#8, 3#8, 128#8, 1#8, 200#8, 5#8].size
        #[1#8, 0#8, 0#8, 255#8].size ∧
      [2, 0, 1].Perm (List.range 3) ∧ [[2], [], [0, 1]].flatten = [2, 0, 1] ∧
      [[0, 1], [2], []].Perm [[2], [], [0, 1]] ∧
      finalOutput ([[0, 1], [2], []].map
          (Call.onColumns ⟨2, 3⟩ #[100#8, 3#8, 128#8, 1#8, 200#8, 5#8]))
        #[1#8, 0#8, 0#8, 255#8] = #[26#8, 60#8, 60#8, 89#8] := by
  have fits : Shape.Fits ⟨2, 3⟩ #[100#8, 3#8, 128#8, 1#8, 200#8, 5#8].size
      #[1#8, 0#8, 0#8, 255#8].size :=
    ⟨by decide, by decide, by decide, by decide⟩
  obtain ⟨-, -, same⟩ := blocks_eq_whole ⟨2, 3⟩ #[100#8, 3#8, 128#8, 1#8, 200#8, 5#8]
    #[1#8, 0#8, 0#8, 255#8] fits [2, 0, 1] (by decide) [[2], [], [0, 1]] rfl
    [[0, 1], [2], []] (by decide)
  refine ⟨fits, by decide, rfl, by decide, same.trans ?_⟩
  decide +kernel

end ComputeBench.Gram
