import ComputeBench.Bytes.BigEndian
import ComputeBench.Image.Deflate.Inflate
import ComputeBench.Image.Deflate.Stored

namespace ComputeBench.Zlib

structure Adler where
  low : Nat
  high : Nat

def adlerModulus : Nat := 65521

def Adler.add (sum : Adler) (byte : UInt8) : Adler :=
  let low := (sum.low + byte.toNat) % adlerModulus
  ⟨low, (sum.high + low) % adlerModulus⟩

def adler (data : Bytes) : Nat :=
  let sum := data.foldl Adler.add ⟨1, 0⟩
  65536 * sum.high + sum.low

-- the check value for the name of an encyclopedia
example : adler [0x57, 0x69, 0x6b, 0x69, 0x70, 0x65, 0x64, 0x69, 0x61] = 0x11e60398 := by
  decide

def wrap (data : Bytes) : Bytes :=
  0x78 :: 0x01 :: Deflate.store data ++ BigEndian.encode 4 (adler data)

def goodHeader (method flags : Nat) : Bool :=
  method % 16 == 8 && method / 16 ≤ 7 && (256 * method + flags) % 31 == 0 &&
    !flags.testBit 5

def unwrap : Bytes → Except Deflate.Error Bytes
  | method :: flags :: stream =>
      if goodHeader method.toNat flags.toNat then do
        let (data, rest) ← Deflate.inflate stream
        if rest = BigEndian.encode 4 (adler data) then return data
        else throw .checksum
      else .error .header
  | _ => .error .unexpectedEnd

end ComputeBench.Zlib
