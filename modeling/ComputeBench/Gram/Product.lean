import ComputeBench.Gram.Shape

namespace ComputeBench.Gram

variable {w : Nat}

def dot (first second : List (BitVec w)) : BitVec w :=
  (List.zipWith (· * ·) first second).foldr (· + ·) 0

theorem dot_cons (entry other : BitVec w) (rest others : List (BitVec w)) :
    dot (entry :: rest) (other :: others) = entry * other + dot rest others := rfl

def inputRow (shape : Shape) (input : Array (BitVec w)) (row : Nat) :
    Except Abort (List (BitVec w)) :=
  stretch input (row * shape.cols) ((row + 1) * shape.cols)

def addDots (shape : Shape) (input : Array (BitVec w)) (own : List (BitVec w)) :
    Nat → List (BitVec w) → Except Abort (List (BitVec w))
  | _, [] => .ok []
  | row, entry :: rest => do
      let other ← inputRow shape input row
      return (entry + dot own other) :: (← addDots shape input own (row + 1) rest)

def addRow (shape : Shape) (input : Array (BitVec w)) (row : Nat)
    (entries : List (BitVec w)) : Except Abort (List (BitVec w)) := do
  addDots shape input (← inputRow shape input row) 0 entries

def addChunks (shape : Shape) (input : Array (BitVec w)) :
    Nat → List (List (BitVec w)) → Except Abort (List (List (BitVec w)))
  | _, [] => .ok []
  | row, entries :: rest => do
      let added ← addRow shape input row entries
      return added :: (← addChunks shape input (row + 1) rest)

def addRows (shape : Shape) (input output : Array (BitVec w)) :
    Except Abort (Array (BitVec w)) := do
  let rows ← addChunks shape input 0 (← chunksOf shape.rows output)
  return overwrite output 0 rows.flatten

def accumulate (shape : Shape) (input output : Array (BitVec w)) :
    Except Fault (Array (BitVec w)) := do
  shape.check input.size output.size
  -- chunks of no entries cannot be cut
  if shape.rows = 0 then
    return output
  addRows shape input output

/-- The size of the buffer is settled before anything else, even before the matrix. -/
def product (shape : Shape) (input : Array (BitVec w)) :
    Except Fault (Array (BitVec w)) := do
  let entries ← checkedLength shape.rows shape.rows
  allocate (entries * (w / 8))
  shape.check input.size entries
  accumulate shape input (Array.replicate entries 0)

end ComputeBench.Gram
