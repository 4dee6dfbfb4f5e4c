import ComputeBench.Bytes.Word

namespace ComputeBench.BigEndian

def encode (width value : Nat) : Bytes :=
  (LittleEndian.encode width value).reverse

def decode (bytes : Bytes) : Nat :=
  LittleEndian.decode bytes.reverse

@[simp] theorem length_encode (width value : Nat) :
    (encode width value).length = width := by
  simp [encode]

end ComputeBench.BigEndian
