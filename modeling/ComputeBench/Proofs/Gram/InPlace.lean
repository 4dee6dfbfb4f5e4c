import Mathlib
import ComputeBench.Gram.InPlace
import ComputeBench.Proofs.Gram.Session

namespace ComputeBench

theorem overwrite_concat {α : Type} (buffer : Array α) (place : Nat) (items : List α)
    (item : α) :
    overwrite buffer place (items ++ [item]) =
      (overwrite buffer place items).setIfInBounds (place + items.length) item := by
  induction items generalizing buffer place with
  | nil => rfl
  | cons first rest ih =>
      rw [List.cons_append, overwrite, ih, overwrite, List.length_cons, Nat.add_assoc,
        Nat.add_comm 1]

namespace Gram

variable {w : Nat} {shape : Shape} {input output : Array (BitVec w)} {row column : Nat}

theorem bind_of_ok {α β : Type} {step : Writing w α} {next : α → Writing w β} {value : α}
    {later : Array (BitVec w)} (ran : step output = .ok value later) :
    (step >>= next) output = next value later := by
  simp only [bind, EStateM.bind, ran]

theorem writeEntry_eq {own other : List (BitVec w)} {entry : BitVec w}
    (read : inputRow shape input column = .ok other)
    (present : output[row * shape.rows + column]? = some entry) :
    writeEntry shape input own row column output =
      .ok () (output.setIfInBounds (row * shape.rows + column) (entry + dot own other)) := by
  have item : itemAt output (row * shape.rows + column) = .ok entry := by
    rw [itemAt, present]
  rw [writeEntry, read]
  refine (bind_of_ok rfl).trans ((bind_of_ok rfl).trans ?_)
  rw [item]
  rfl

theorem writeEntries_eq (whole : input.size = shape.rows * shape.cols)
    {own items : List (BitVec w)} (length : items.length = shape.rows)
    (entries : ∀ column < shape.rows, ∃ entry,
      output[row * shape.rows + column]? = some entry ∧
        items[column]? = some (entry + dot own (rowAt shape.cols input column)))
    {count : Nat} (room : count ≤ shape.rows) :
    forM (List.range count) (writeEntry shape input own row) output =
      .ok () (overwrite output (row * shape.rows) (items.take count)) := by
  induction count with
  | zero => rfl
  | succ column ih =>
      have within : column < shape.rows := room
      obtain ⟨entry, old, new⟩ := entries column within
      have read : inputRow shape input column = .ok (rowAt shape.cols input column) :=
        stretch_row within whole
      have before : (items.take column).length = column := by
        rw [List.length_take, length, Nat.min_eq_left within.le]
      -- all that is written so far lies before this entry
      have untouched : (overwrite output (row * shape.rows) (items.take column))[
          row * shape.rows + column]? = some entry := by
        rw [getElem?_overwrite_of_le (by rw [before]), old]
      rw [List.range_succ, List.forM_append]
      refine (bind_of_ok (ih within.le)).trans ?_
      rw [List.take_add_one, new, Option.toList_some, overwrite_concat, before, List.forM_cons]
      exact bind_of_ok (writeEntry_eq read untouched)

theorem writeRow_eq (whole : input.size = shape.rows * shape.cols) (inside : row < shape.rows)
    (stored : output.size = shape.rows * shape.rows) :
    writeRow shape input row output =
      .ok () (overwrite output (row * shape.rows)
        (addedRow shape input row (rowAt shape.rows output row))) := by
  have own : inputRow shape input row = .ok (rowAt shape.cols input row) :=
    stretch_row inside whole
  have length : (addedRow shape input row (rowAt shape.rows output row)).length =
      shape.rows := by
    rw [length_addedRow, length_rowAt inside stored]
  have entries : ∀ column < shape.rows, ∃ entry,
      output[row * shape.rows + column]? = some entry ∧
        (addedRow shape input row (rowAt shape.rows output row))[column]? =
          some (entry + dot (rowAt shape.cols input row) (rowAt shape.cols input column)) := by
    intro column within
    have present := Array.getElem?_eq_getElem (place_lt inside stored within)
    refine ⟨_, present, ?_⟩
    rw [addedRow, List.getElem?_mapIdx, getElem?_rowAt within, present]
    rfl
  have written := writeEntries_eq whole length entries le_rfl
  rw [List.take_of_length_le length.le] at written
  rw [writeRow, own]
  exact (bind_of_ok rfl).trans written

theorem writeRows_eq (whole : input.size = shape.rows * shape.cols)
    (stored : output.size = shape.rows * shape.rows) {order : List Nat}
    (rows : ∀ row ∈ order, row < shape.rows) {result : Array (BitVec w)}
    (ran : runTasks shape input output order = .ok result) :
    forM order (writeRow shape input) output = .ok () result := by
  induction order generalizing output with
  | nil => exact congrArg (EStateM.Result.ok ()) (Except.ok.inj ran)
  | cons row rest ih =>
      have inside := rows row List.mem_cons_self
      rw [runTasks, List.foldlM_cons, runTask_eq whole inside stored, ok_bind] at ran
      rw [List.forM_cons]
      refine (bind_of_ok (writeRow_eq whole inside stored)).trans ?_
      apply ih _ (fun other member => rows other (List.mem_cons_of_mem row member)) ran
      rw [size_overwrite, stored]

namespace Call

theorem write_of_fits {call : Call w} (fits : call.shape.Fits call.input.size output.size) :
    call.write output = .ok () (accumulated call.shape call.input output) := by
  have rows : ∀ row ∈ call.schedule.order call.shape.rows, row < call.shape.rows :=
    fun row member => List.mem_range.mp ((call.schedule.complete _).mem_iff.mp member)
  have passed := Shape.check_eq_ok.mpr fits
  refine (bind_of_ok rfl).trans ?_
  rw [passed]
  exact (bind_of_ok rfl).trans
    (writeRows_eq fits.input fits.output rows (runTasks_schedule call.schedule fits))

theorem write_of_refused {call : Call w} {error : Error}
    (refused : call.shape.check call.input.size output.size = .error error) :
    call.write output = .error (.refused error) output := by
  refine (bind_of_ok rfl).trans ?_
  rw [refused]
  rfl

/-- The reply, in which a failed call leaves the buffer alone, is that of the writing in place. -/
theorem reply_eq_write (call : Call w) (output : Array (BitVec w)) :
    call.reply output = .ofResult (call.write output) := by
  rw [reply, perform_eq, verdict]
  cases passed : call.shape.check call.input.size output.size with
  | error error =>
      rw [write_of_refused passed]
      rfl
  | ok value =>
      rw [write_of_fits (Shape.check_eq_ok.mp passed)]
      rfl

end Call

end Gram

end ComputeBench
