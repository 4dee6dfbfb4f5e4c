import ComputeBench.Capacity
import ComputeBench.Message.Header

namespace ComputeBench

structure MatrixResponse where
  rows : Nat
  values : Array Int64
  deriving DecidableEq

namespace MatrixResponse

def decode (bytes : Bytes) : Except Error MatrixResponse := do
  let (header, body) ← splitHeader bytes
  let rows := decodeSigned header
  if rows < 0 then throw (.invalidRows rows)
  let values ← decodeWords body
  let entries ← checkedLength rows.toInt.toNat rows.toInt.toNat
  requireLength .matrixResponse entries values.length
  return ⟨rows.toInt.toNat, values.toArray⟩

end MatrixResponse

end ComputeBench
