import ComputeBench.Message.Header
import ComputeBench.Walk.Run

namespace ComputeBench

structure WalkRequest where
  iterations : UInt64
  records : Array Record
  deriving DecidableEq

namespace WalkRequest

def encode (request : WalkRequest) : Bytes :=
  encodeUnsigned request.iterations ++ encodeRecords request.records

def decode (bytes : Bytes) : Except Error WalkRequest := do
  let (header, body) ← splitHeader bytes
  let records ← decodeRecords body
  if records.isEmpty then throw .noRecords
  return ⟨decodeUnsigned header, records⟩

def count (request : WalkRequest) : UInt64 := .ofNat request.records.size

def run (request : WalkRequest) : Except Fault Tally :=
  walk request.iterations request.count request.records

end WalkRequest

end ComputeBench
