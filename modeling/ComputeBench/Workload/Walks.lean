import ComputeBench.Message.WalkRequest

namespace ComputeBench.Workload

def recordCount (byteCount : Nat) : Nat :=
  max 1 ((byteCount - headerSize + (recordSize - 1)) / recordSize)

def walkRequest (iterations : UInt64) (byteCount : Nat) : Except Abort Bytes := do
  let count := recordCount byteCount
  allocate (headerSize + recordSize * count)
  return WalkRequest.encode ⟨iterations, Array.replicate count .sample⟩

def expectedTally (iterations : UInt64) : Tally :=
  if iterations = 0 then .empty
  else {
    sum := iterations.toInt64 * Record.sample.sum
    least := Record.sample.samples.min?.getD 0
    greatest := Record.sample.samples.max?.getD 0 }

end ComputeBench.Workload
