import ComputeBench.Bytes.BigEndian

namespace ComputeBench.Qoi

def magic : Bytes := [0x71, 0x6f, 0x69, 0x66]

inductive Error where
  | unexpectedEnd
  | channels (number : UInt8)
  | colorSpace (number : UInt8)
  | magic (first second third fourth : UInt8)
  | dimensions (width height : Nat)
  | padding
  deriving DecidableEq, Repr

def Error.message : Error → String
  | .unexpectedEnd => "unexpected input buffer end while decoding"
  | .channels number => "invalid number of channels: " ++ toString number.toNat
  | .colorSpace number =>
      "invalid color space: " ++ toString number.toNat ++ " (expected 0 or 1)"
  | .magic first second third fourth =>
      "invalid magic: expected " ++ toString (BigEndian.decode Qoi.magic) ++
        ", got [" ++ toString first.toNat ++ ", " ++ toString second.toNat ++
        ", " ++ toString third.toNat ++ ", " ++ toString fourth.toNat ++ "]"
  | .dimensions width height =>
      "invalid image dimensions: " ++ toString width ++ "x" ++ toString height
  | .padding => "invalid padding (stream end marker mismatch)"

end ComputeBench.Qoi
