import ComputeBench.Bytes.Word

namespace ComputeBench

inductive Channels where
  | rgb
  | rgba
  deriving DecidableEq, Repr

def Channels.count : Channels → Nat
  | .rgb => 3
  | .rgba => 4

def Channels.name : Channels → String
  | .rgb => "Rgb"
  | .rgba => "Rgba"

structure Pixel where
  red : UInt8
  green : UInt8
  blue : UInt8
  alpha : UInt8
  deriving DecidableEq, Repr

def Pixel.bytes (channels : Channels) (pixel : Pixel) : Bytes :=
  match channels with
  | .rgb => [pixel.red, pixel.green, pixel.blue]
  | .rgba => [pixel.red, pixel.green, pixel.blue, pixel.alpha]

@[simp] theorem Pixel.length_bytes (channels : Channels) (pixel : Pixel) :
    (pixel.bytes channels).length = channels.count := by
  cases channels <;> rfl

def Pixel.Agree (channels : Channels) (first second : Pixel) : Prop :=
  first.bytes channels = second.bytes channels

structure Image where
  width : Nat
  height : Nat
  channels : Channels
  pixels : List Pixel
  deriving DecidableEq, Repr

namespace Image

def bytes (image : Image) : Bytes :=
  image.pixels.flatMap (Pixel.bytes image.channels)

def pixelOf (channels : Channels) (bytes : Bytes) : Pixel where
  red := bytes.getD 0 0
  green := bytes.getD 1 0
  blue := bytes.getD 2 0
  alpha := match channels with
    | .rgb => 255
    | .rgba => bytes.getD 3 0

def pixelsOf (channels : Channels) (count : Nat) (bytes : Bytes) : List Pixel :=
  (blocks channels.count count bytes).map (pixelOf channels)

end Image

end ComputeBench
