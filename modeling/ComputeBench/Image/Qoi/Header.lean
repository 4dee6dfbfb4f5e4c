import ComputeBench.Image.Pixel
import ComputeBench.Image.Qoi.Error

namespace ComputeBench.Qoi

inductive ColorSpace where
  | srgb
  | linear
  deriving DecidableEq, Repr

def ColorSpace.number : ColorSpace → UInt8
  | .srgb => 0
  | .linear => 1

structure Header where
  width : Nat
  height : Nat
  channels : Channels
  colorSpace : ColorSpace
  deriving DecidableEq, Repr

def maxPixels : Nat := 400000000

namespace Header

def encode (header : Header) : Bytes :=
  magic ++ BigEndian.encode 4 header.width ++ BigEndian.encode 4 header.height ++
    [.ofNat header.channels.count, header.colorSpace.number]

def readChannels (number : UInt8) : Except Error Channels :=
  if number = 3 then .ok .rgb
  else if number = 4 then .ok .rgba
  else .error (.channels number)

def readColorSpace (number : UInt8) : Except Error ColorSpace :=
  if number = 0 then .ok .srgb
  else if number = 1 then .ok .linear
  else .error (.colorSpace number)

def read : Bytes → Except Error (Header × Bytes)
  | m0 :: m1 :: m2 :: m3 :: w0 :: w1 :: w2 :: w3 :: h0 :: h1 :: h2 :: h3 ::
      channels :: colorSpace :: rest => do
      let channels ← readChannels channels
      let colorSpace ← readColorSpace colorSpace
      let width := BigEndian.decode [w0, w1, w2, w3]
      let height := BigEndian.decode [h0, h1, h2, h3]
      if [m0, m1, m2, m3] ≠ magic then .error (.magic m0 m1 m2 m3)
      else if width * height = 0 ∨ maxPixels < width * height then
        .error (.dimensions width height)
      else .ok (⟨width, height, channels, colorSpace⟩, rest)
  | _ => .error .unexpectedEnd

end Header

end ComputeBench.Qoi
