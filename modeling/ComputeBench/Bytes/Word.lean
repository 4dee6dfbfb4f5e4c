import ComputeBench.Bytes.Blocks
import ComputeBench.Fault

namespace ComputeBench

abbrev Bytes := List UInt8

namespace LittleEndian

def encode : Nat → Nat → Bytes
  | 0, _ => []
  | width + 1, value => UInt8.ofNat value :: encode width (value / 256)

def decode : Bytes → Nat
  | [] => 0
  | byte :: rest => byte.toNat + 256 * decode rest

@[simp] theorem length_encode (width value : Nat) :
    (encode width value).length = width := by
  induction width generalizing value with
  | zero => rfl
  | succ width ih => simp [encode, ih]

end LittleEndian

def wordSize : Nat := 8

def encodeUnsigned (value : UInt64) : Bytes :=
  LittleEndian.encode wordSize value.toNat

def decodeUnsigned (bytes : Bytes) : UInt64 :=
  UInt64.ofNat (LittleEndian.decode bytes)

def encodeSigned (value : Int64) : Bytes :=
  encodeUnsigned value.toUInt64

def decodeSigned (bytes : Bytes) : Int64 :=
  (decodeUnsigned bytes).toInt64

@[simp] theorem length_encodeUnsigned (value : UInt64) :
    (encodeUnsigned value).length = wordSize :=
  LittleEndian.length_encode _ _

@[simp] theorem length_encodeSigned (value : Int64) :
    (encodeSigned value).length = wordSize :=
  length_encodeUnsigned _

def encodeWords (values : List Int64) : Bytes :=
  values.flatMap encodeSigned

def decodeWords (body : Bytes) : Except Error (List Int64) :=
  if body.length % wordSize = 0 then
    .ok ((blocks wordSize (body.length / wordSize) body).map decodeSigned)
  else .error (.partialWord body.length)

end ComputeBench
