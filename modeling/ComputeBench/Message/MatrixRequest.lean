import ComputeBench.Gram.Product
import ComputeBench.Message.Header

namespace ComputeBench

def encodeMatrix (rows : Nat) (values : Array Int64) : Bytes :=
  encodeSigned (.ofNat rows) ++ encodeWords values.toList

def writeMatrix (rows : Nat) (values : Array Int64) : Except Abort Bytes := do
  allocate ((values.size + 1) * wordSize)
  return encodeMatrix rows values

structure MatrixRequest where
  rows : Nat
  cols : Nat
  values : Array Int64
  deriving DecidableEq

namespace MatrixRequest

def encode (request : MatrixRequest) : Bytes :=
  encodeMatrix request.rows request.values

def write (request : MatrixRequest) : Except Abort Bytes :=
  writeMatrix request.rows request.values

def decode (bytes : Bytes) : Except Error MatrixRequest := do
  let (header, body) ← splitHeader bytes
  let values ← decodeWords body
  let rows := (decodeSigned header).toInt.toNat
  if rows = 0 ∨ values.length % rows ≠ 0 then
    throw (.invalidRows (decodeSigned header))
  return ⟨rows, values.length / rows, values.toArray⟩

def shape (request : MatrixRequest) : Gram.Shape :=
  ⟨request.rows, request.cols⟩

def product (request : MatrixRequest) : Except Fault (Array Int64) := do
  let entries ← Gram.product request.shape (request.values.map Int64.toBitVec)
  return entries.map Int64.ofBitVec

def run (request : MatrixRequest) : Except Fault Bytes := do
  writeMatrix request.rows (← request.product)

end MatrixRequest

end ComputeBench
