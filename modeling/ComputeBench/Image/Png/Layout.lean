import ComputeBench.Image.Pixel
import ComputeBench.Image.Png.Chunk

namespace ComputeBench.Png

structure Header where
  width : Nat
  height : Nat
  bitDepth : Nat
  channels : Channels
  interlaced : Bool
  deriving DecidableEq, Repr

def maxDimension : Nat := 0x7fffffff

def colorType : Channels → UInt8
  | .rgb => 2
  | .rgba => 6

namespace Header

def lineSize (header : Header) : Nat := header.width * header.channels.count

def dataSize (header : Header) : Nat := header.lineSize * header.height

def encode (header : Header) : Bytes :=
  BigEndian.encode 4 header.width ++ BigEndian.encode 4 header.height ++
    [.ofNat header.bitDepth, colorType header.channels, 0, 0,
      .ofNat header.interlaced.toNat]

end Header

def endChunk : Chunk := ⟨endName, []⟩

def layout (header : Header) (parts : List Bytes) : List Chunk :=
  ⟨headerName, header.encode⟩ :: parts.map (Chunk.mk dataName) ++ [endChunk]

def assemble (header : Header) (parts : List Bytes) : Bytes :=
  signature ++ (layout header parts).flatMap Chunk.encode

end ComputeBench.Png
