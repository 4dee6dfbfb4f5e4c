import ComputeBench.Capacity

namespace ComputeBench.Gram

structure Shape where
  rows : Nat
  cols : Nat
  deriving DecidableEq, Repr

def Shape.check (shape : Shape) (inputSize outputSize : Nat) : Except Error Unit := do
  requireLength .inputMatrix (← checkedLength shape.rows shape.cols) inputSize
  requireLength .outputMatrix (← checkedLength shape.rows shape.rows) outputSize

end ComputeBench.Gram
