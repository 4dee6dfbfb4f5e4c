import ComputeBench.Gram.Product

namespace ComputeBench.Gram

variable {w : Nat}

structure Schedule where
  order : Nat → List Nat
  complete : ∀ rows, (order rows).Perm (List.range rows)

def Schedule.inOrder : Schedule := ⟨List.range, fun _ => .refl _⟩

def minParallelRows : Nat := 32

def outputRow (shape : Shape) (output : Array (BitVec w)) (row : Nat) :
    Except Abort (List (BitVec w)) :=
  stretch output (row * shape.rows) ((row + 1) * shape.rows)

def runTask (shape : Shape) (input output : Array (BitVec w)) (row : Nat) :
    Except Abort (Array (BitVec w)) := do
  let entries ← addRow shape input row (← outputRow shape output row)
  return overwrite output (row * shape.rows) entries

def runTasks (shape : Shape) (input output : Array (BitVec w)) (order : List Nat) :
    Except Abort (Array (BitVec w)) :=
  order.foldlM (runTask shape input) output

def accumulateParallel (schedule : Schedule) (shape : Shape)
    (input output : Array (BitVec w)) : Except Fault (Array (BitVec w)) :=
  if shape.rows < minParallelRows then accumulate shape input output
  else do
    shape.check input.size output.size
    requireChunk shape.rows
    runTasks shape input output (schedule.order shape.rows)

end ComputeBench.Gram
