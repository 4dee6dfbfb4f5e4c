import ComputeBench.Service.Calls
import ComputeBench.Workload.Matrices
import ComputeBench.Workload.Walks

namespace ComputeBench.Service

inductive Command where
  | edit (change : Bytes → Bytes)
  | generateWalk (iterations : UInt64) (byteCount : Nat)
  | generateMatrix (size : Nat)
  | decodeWalk
  | reencodeWalk
  | runWalk
  | decodeTally
  | countRecords
  | decodeMatrix
  | reencodeMatrix
  | runMatrix
  | decodeResponse

inductive Report where
  | done
  | walk (iterations : UInt64) (count : Nat)
  | tally (tally : Tally)
  | records (count : Nat)
  | matrix (rows cols : Nat)
  | response (response : MatrixResponse)

structure Step where
  buffer : Bytes
  result : Except Fault Report

namespace Command

def set (bytes : Bytes) : Command := .edit fun _ => bytes

def append (bytes : Bytes) : Command := .edit fun buffer => buffer ++ bytes

def truncate (length : Nat) : Command := .edit fun buffer => buffer.take length

def patch (place : Nat) (bytes : Bytes) : Command := .edit fun buffer =>
  (buffer.take place ++ bytes ++ buffer.drop (place + bytes.length)).take buffer.length

def perform (command : Command) (buffer : Bytes) : Traced (Bytes × Report) :=
  match command with
  | .edit change => pure (change buffer, .done)
  | .generateWalk iterations byteCount => do
      let bytes ← Workload.walkRequest iterations byteCount
      return (bytes, .done)
  | .generateMatrix size => do
      let bytes ← Workload.matrixRequest size
      return (bytes, .done)
  | .decodeWalk => do
      let request ← Service.decodeWalk buffer
      return (buffer, .walk request.iterations request.records.size)
  | .reencodeWalk => do
      let request ← Service.decodeWalk buffer
      return (request.encode, .done)
  | .runWalk => do
      let tally ← Service.runWalk (← Service.decodeWalk buffer)
      return (tally.encode, .tally tally)
  | .decodeTally => do
      let tally ← refusing (Tally.decode buffer)
      return (buffer, .tally tally)
  | .countRecords => do
      let records ← refusing (decodeRecords buffer)
      return (buffer, .records records.size)
  | .decodeMatrix => do
      let request ← Service.decodeMatrix buffer
      return (buffer, .matrix request.rows request.cols)
  | .reencodeMatrix => do
      let request ← Service.decodeMatrix buffer
      let bytes ← request.write
      return (bytes, .done)
  | .runMatrix => do
      let response ← Service.runMatrix (← Service.decodeMatrix buffer)
      return (response, .done)
  | .decodeResponse => do
      let response ← refusing (MatrixResponse.decode buffer)
      return (buffer, .response response)

def step (command : Command) (buffer : Bytes) : Traced Step := do
  match ← (command.perform buffer).outcome with
  | .ok (after, report) => return ⟨after, .ok report⟩
  | .error fault => return ⟨buffer, .error fault⟩

end Command

def session : List Command → Bytes → Traced (List Step)
  | [], _ => pure []
  | command :: rest, buffer => do
      let step ← command.step buffer
      return step :: (← session rest step.buffer)

end ComputeBench.Service
