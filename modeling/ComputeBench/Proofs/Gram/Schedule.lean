import Mathlib
import ComputeBench.Gram.Session
import ComputeBench.Proofs.Gram.Accumulate

namespace ComputeBench.Gram

variable {w : Nat} {shape : Shape} {input output : Array (BitVec w)}
  {row : Nat} {finished : List Nat}

/-- The buffer when the tasks of the finished rows have run and no other task has. -/
def progress (shape : Shape) (input output : Array (BitVec w)) (finished : List Nat) :
    Array (BitVec w) :=
  output.mapIdx fun place entry =>
    if place / shape.rows ∈ finished then
      entry + contribution shape input (place / shape.rows) (place % shape.rows)
    else entry

@[simp] theorem size_progress (shape : Shape) (input output : Array (BitVec w))
    (finished : List Nat) : (progress shape input output finished).size = output.size :=
  Array.size_mapIdx

theorem progress_nil (shape : Shape) (input output : Array (BitVec w)) :
    progress shape input output [] = output := by
  apply Array.ext_getElem?
  intro place
  rw [progress, Array.getElem?_mapIdx]
  simp

theorem progress_of_complete (whole : output.size = shape.rows * shape.rows)
    (complete : ∀ row < shape.rows, row ∈ finished) :
    progress shape input output finished = accumulated shape input output := by
  apply Array.ext_getElem?
  intro place
  rw [progress, accumulated, Array.getElem?_mapIdx, Array.getElem?_mapIdx]
  by_cases stored : place < output.size
  · have inside : place / shape.rows < shape.rows :=
      Nat.div_lt_of_lt_mul (whole ▸ stored)
    simp only [if_pos (complete _ inside)]
  · rw [Array.getElem?_eq_none (not_lt.mp stored), Option.map_none, Option.map_none]

theorem getElem?_progress_of_mem (member : row ∈ finished) {column : Nat}
    (within : column < shape.rows) :
    (progress shape input output finished)[row * shape.rows + column]? =
      output[row * shape.rows + column]?.map (· + contribution shape input row column) := by
  rw [progress, Array.getElem?_mapIdx, place_div row within, place_mod row within]
  simp only [if_pos member]

theorem getElem?_progress_of_not_mem {place : Nat}
    (fresh : place / shape.rows ∉ finished) :
    (progress shape input output finished)[place]? = output[place]? := by
  rw [progress, Array.getElem?_mapIdx]
  simp only [if_neg fresh, Option.map_id']

theorem rowAt_progress_of_not_mem (inside : row < shape.rows)
    (whole : output.size = shape.rows * shape.rows) (fresh : row ∉ finished) :
    rowAt shape.rows (progress shape input output finished) row =
      rowAt shape.rows output row := by
  apply rowAt_eq inside
  · rw [size_progress, whole]
  · exact length_rowAt inside whole
  · intro column within
    rw [getElem?_rowAt within, getElem?_progress_of_not_mem]
    rwa [place_div row within]

theorem getElem?_progress_cons {place : Nat} (other : place / shape.rows ≠ row) :
    (progress shape input output (row :: finished))[place]? =
      (progress shape input output finished)[place]? := by
  simp only [progress, Array.getElem?_mapIdx, List.mem_cons, other, false_or]

theorem overwrite_progress (inside : row < shape.rows)
    (whole : output.size = shape.rows * shape.rows) :
    overwrite (progress shape input output finished) (row * shape.rows)
        (addedRow shape input row (rowAt shape.rows output row)) =
      progress shape input output (row :: finished) := by
  have positive : 0 < shape.rows := by omega
  have length : (addedRow shape input row (rowAt shape.rows output row)).length =
      shape.rows := by
    rw [length_addedRow, length_rowAt inside whole]
  have fits : row * shape.rows + shape.rows ≤ output.size := by
    rw [← Nat.add_one_mul]
    exact row_end_le inside whole
  apply Array.ext_getElem?
  intro place
  rcases lt_or_ge place (row * shape.rows) with before | after
  · rw [getElem?_overwrite_of_lt before,
      getElem?_progress_cons (place_div_ne positive (.inl before))]
  · rcases lt_or_ge place (row * shape.rows + shape.rows) with own | past
    · obtain ⟨column, rfl⟩ := Nat.exists_eq_add_of_le after
      have within : column < shape.rows := by omega
      rw [getElem?_overwrite_add (length.symm ▸ within)
          (by rw [length, size_progress]; exact fits),
        getElem?_progress_of_mem List.mem_cons_self within, addedRow, List.getElem?_mapIdx,
        getElem?_rowAt within]
    · rw [getElem?_overwrite_of_le (length.symm ▸ past),
        getElem?_progress_cons (place_div_ne positive (.inr past))]

theorem runTask_eq (whole : input.size = shape.rows * shape.cols) (inside : row < shape.rows)
    (stored : output.size = shape.rows * shape.rows) :
    runTask shape input output row = .ok (overwrite output (row * shape.rows)
      (addedRow shape input row (rowAt shape.rows output row))) := by
  have own : outputRow shape output row = .ok (rowAt shape.rows output row) :=
    stretch_row inside stored
  rw [runTask, own, ok_bind, addRow_eq whole inside (length_rowAt inside stored).le, ok_bind]
  rfl

theorem runTask_progress (fits : shape.Fits input.size output.size)
    (inside : row < shape.rows) (fresh : row ∉ finished) :
    runTask shape input (progress shape input output finished) row =
      .ok (progress shape input output (row :: finished)) := by
  have stored : (progress shape input output finished).size = shape.rows * shape.rows := by
    rw [size_progress, fits.output]
  rw [runTask_eq fits.input inside stored, rowAt_progress_of_not_mem inside fits.output fresh,
    overwrite_progress inside fits.output]

theorem runTasks_progress (fits : shape.Fits input.size output.size)
    {order : List Nat} (rows : ∀ row ∈ order, row < shape.rows)
    (once : (order.reverse ++ finished).Nodup) :
    runTasks shape input (progress shape input output finished) order =
      .ok (progress shape input output (order.reverse ++ finished)) := by
  induction order generalizing finished with
  | nil => rfl
  | cons row rest ih =>
      rw [List.reverse_cons, List.append_assoc, List.singleton_append] at once ⊢
      -- no row has two tasks, so this one still finds its own row as it was
      have fresh : row ∉ finished :=
        (List.nodup_cons.mp (List.nodup_append.mp once).2.1).1
      have ran := runTask_progress fits (rows row List.mem_cons_self) fresh
      rw [runTasks, List.foldlM_cons, ran, ok_bind]
      exact ih (fun other member => rows other (List.mem_cons_of_mem row member)) once

theorem runTasks_schedule (schedule : Schedule)
    (fits : shape.Fits input.size output.size) :
    runTasks shape input output (schedule.order shape.rows) =
      .ok (accumulated shape input output) := by
  have perm := schedule.complete shape.rows
  have rows : ∀ row ∈ schedule.order shape.rows, row < shape.rows := fun row member =>
    List.mem_range.mp (perm.mem_iff.mp member)
  have once : ((schedule.order shape.rows).reverse ++ []).Nodup := by
    rw [List.append_nil, List.nodup_reverse]
    exact perm.nodup_iff.mpr List.nodup_range
  have ran := runTasks_progress fits rows once
  rw [progress_nil] at ran
  rw [ran, progress_of_complete fits.output]
  intro row inside
  rw [List.append_nil, List.mem_reverse]
  exact perm.mem_iff.mpr (List.mem_range.mpr inside)

theorem accumulateParallel_eq (schedule : Schedule) (shape : Shape)
    (input output : Array (BitVec w)) :
    accumulateParallel schedule shape input output =
      accumulate shape input output := by
  by_cases small : shape.rows < minParallelRows
  · exact if_pos small
  · rw [accumulateParallel, if_neg small, accumulate_eq]
    cases passed : shape.check input.size output.size with
    | error error => rfl
    | ok value =>
        have positive : 0 < shape.rows :=
          Nat.pos_of_ne_zero fun none => small (none ▸ by decide)
        rw [lift_refusing_ok, ok_bind, ok_bind, requireChunk_of_pos positive,
          lift_aborting_ok, ok_bind,
          runTasks_schedule schedule (Shape.check_eq_ok.mp passed), lift_aborting_ok]
        rfl

/-- No schedule can be told from the sequential product: the outcome and the buffer afterwards are
the same whatever the lengths of the buffers, and neither of the two ends in the middle. -/
theorem reply_parallel_eq_sequential (schedule : Schedule) (shape : Shape)
    (input output : Array (BitVec w)) :
    Call.reply ⟨shape, .parallel schedule, input⟩ output =
        Call.reply ⟨shape, .sequential, input⟩ output ∧
      ∀ abort, (Call.reply ⟨shape, .sequential, input⟩ output).outcome ≠
        .error (.aborted abort) := by
  constructor
  · simp only [Call.reply, Call.perform, accumulateParallel_eq]
  · intro abort
    rw [Call.reply, Call.perform, accumulate_eq]
    cases shape.check input.size output.size with
    | error error => exact fun same => nomatch same
    | ok value => exact fun same => nomatch same

end ComputeBench.Gram
