import ComputeBench.Bytes.Word

namespace ComputeBench.Deflate

inductive Error where
  | unexpectedEnd
  | blockType
  | storedLength
  | codeLengths
  | code
  | distance
  | header
  | checksum
  deriving DecidableEq, Repr

structure Bits where
  pending : List Bool
  rest : Bytes
  deriving DecidableEq, Repr

namespace Bits

def ofBytes (bytes : Bytes) : Bits := ⟨[], bytes⟩

def size (bits : Bits) : Nat := bits.pending.length + 8 * bits.rest.length

def ofByte (byte : UInt8) : List Bool :=
  (List.range 8).map byte.toNat.testBit

def next : Bits → Except Error (Bool × Bits)
  | ⟨bit :: pending, rest⟩ => .ok (bit, ⟨pending, rest⟩)
  | ⟨[], byte :: rest⟩ => .ok (byte.toNat.testBit 0, ⟨(ofByte byte).tail, rest⟩)
  | ⟨[], []⟩ => .error .unexpectedEnd

def number : Nat → Bits → Except Error (Nat × Bits)
  | 0, bits => .ok (0, bits)
  | width + 1, bits => do
      let (low, bits) ← bits.next
      let (high, bits) ← number width bits
      return (low.toNat + 2 * high, bits)

def aligned (bits : Bits) : Bytes := bits.rest

end Bits

end ComputeBench.Deflate
