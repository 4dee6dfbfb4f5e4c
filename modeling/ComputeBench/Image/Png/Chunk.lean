import ComputeBench.Bytes.BigEndian
import ComputeBench.Image.Deflate.Bits

namespace ComputeBench.Png

def crcPolynomial : UInt32 := 0xedb88320

def crcBit (sum : UInt32) : UInt32 :=
  if sum &&& 1 = 0 then sum >>> 1 else (sum >>> 1) ^^^ crcPolynomial

def crcByte (sum : UInt32) (byte : UInt8) : UInt32 :=
  let sum := sum ^^^ byte.toUInt32
  crcBit (crcBit (crcBit (crcBit (crcBit (crcBit (crcBit (crcBit sum)))))))

def crc (bytes : Bytes) : UInt32 :=
  bytes.foldl crcByte 0xffffffff ^^^ 0xffffffff

-- the check value of the polynomial, for the digits from one to nine
example : crc [0x31, 0x32, 0x33, 0x34, 0x35, 0x36, 0x37, 0x38, 0x39] = 0xcbf43926 := by
  decide +kernel

structure Chunk where
  name : Bytes
  data : Bytes
  deriving DecidableEq, Repr

def signature : Bytes := [0x89, 0x50, 0x4e, 0x47, 0x0d, 0x0a, 0x1a, 0x0a]

def headerName : Bytes := [0x49, 0x48, 0x44, 0x52]

def dataName : Bytes := [0x49, 0x44, 0x41, 0x54]

def endName : Bytes := [0x49, 0x45, 0x4e, 0x44]

inductive Error where
  | unexpectedEnd
  | signature
  | checksum
  | chunkOrder
  | header
  | interlaced
  | compression (error : Deflate.Error)
  | filter
  | dataLength
  deriving DecidableEq, Repr

namespace Chunk

def encode (chunk : Chunk) : Bytes :=
  BigEndian.encode 4 chunk.data.length ++ (chunk.name ++ chunk.data) ++
    BigEndian.encode 4 (crc (chunk.name ++ chunk.data)).toNat

def read : Bytes → Except Error (Chunk × Bytes)
  | l0 :: l1 :: l2 :: l3 :: rest =>
      let length := BigEndian.decode [l0, l1, l2, l3]
      let (body, rest) := rest.splitAt (4 + length)
      let (sum, rest) := rest.splitAt 4
      if body.length < 4 + length ∨ sum.length < 4 then .error .unexpectedEnd
      else if BigEndian.decode sum ≠ (crc body).toNat then .error .checksum
      else .ok (⟨body.take 4, body.drop 4⟩, rest)
  | _ => .error .unexpectedEnd

end Chunk

end ComputeBench.Png
