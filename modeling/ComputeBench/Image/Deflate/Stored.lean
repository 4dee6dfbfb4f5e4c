import ComputeBench.Bytes.Word

namespace ComputeBench.Deflate

def maxStored : Nat := 65535

def storedBlock (last : Bool) (data : Bytes) : Bytes :=
  .ofNat last.toNat :: LittleEndian.encode 2 data.length ++
    LittleEndian.encode 2 (maxStored - data.length) ++ data

def storedBlocks : Nat → Bytes → Bytes
  | 0, data => storedBlock true data
  | full + 1, data =>
      storedBlock false (data.take maxStored) ++
        storedBlocks full (data.drop maxStored)

def store (data : Bytes) : Bytes :=
  storedBlocks ((data.length - 1) / maxStored) data

end ComputeBench.Deflate
