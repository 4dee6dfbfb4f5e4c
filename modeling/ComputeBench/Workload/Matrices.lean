import ComputeBench.Message.MatrixRequest

namespace ComputeBench.Workload

/-- A count past the greatest signed word is no count, and the request is then the bare header. -/
def entryCount (size : Nat) : Nat :=
  (Int64.ofNat (size * size)).toInt.toNat

def matrixRequest (size : Nat) : Except Abort Bytes := do
  let count := entryCount size
  allocate (wordSize * count)
  writeMatrix size ((Array.range count).map fun index => .ofNat (index + 1))

def addSquares : Nat → Int64 → Int64 → Int64
  | 0, _, total => total
  | count + 1, value, total => addSquares count (value + 1) (total + value * value)

def expectedLastEntry (size : Nat) : Int64 :=
  if size = 0 then 0
  else
    let first : Int64 := .ofNat (size * (size - 1) + 1)
    -- where the end of the last row wraps, the row has no entries left
    let stop := first + .ofNat size
    addSquares (stop.toInt - first.toInt).toNat first 0

def responseLength (rows : Nat) : Nat := (rows * rows + 1) * wordSize

def responseSize (rows : UInt64) : UInt64 := (rows * rows + 1) * 8

end ComputeBench.Workload
