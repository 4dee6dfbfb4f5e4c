import ComputeBench.Bytes.Word

namespace ComputeBench

def headerSize : Nat := wordSize

def splitHeader (bytes : Bytes) : Except Error (Bytes × Bytes) :=
  if bytes.length < headerSize then .error (.truncated headerSize bytes.length)
  else .ok (bytes.splitAt headerSize)

theorem splitHeader_of_lt {bytes : Bytes} (short : bytes.length < headerSize) :
    splitHeader bytes = .error (.truncated headerSize bytes.length) :=
  if_pos short

theorem splitHeader_of_le {bytes : Bytes} (long : headerSize ≤ bytes.length) :
    splitHeader bytes = .ok (bytes.take headerSize, bytes.drop headerSize) := by
  rw [splitHeader, if_neg (Nat.not_lt.mpr long), List.splitAt_eq]

theorem splitHeader_append (header body : Bytes)
    (whole : header.length = headerSize) :
    splitHeader (header ++ body) = .ok (header, body) := by
  unfold splitHeader
  rw [if_neg (by rw [List.length_append]; omega), ← whole]
  simp

end ComputeBench
