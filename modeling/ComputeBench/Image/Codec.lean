import ComputeBench.Fault
import ComputeBench.Image.Png.Layout
import ComputeBench.Image.Qoi.Header

namespace ComputeBench.Image

/-- A decoder of one format and an encoder of the other. The encoder is opened with what the header
is to say, handed the pixels and closed; every call may refuse, and says why in words. -/
structure Codec where
  decode : Bytes → Except String (Qoi.Header × Bytes)
  Writer : Type
  writeHeader : Png.Header → Except String Writer
  writeData : Writer → Bytes → Except String Writer
  finish : Writer → Except String Bytes

def pngHeader (header : Qoi.Header) : Png.Header where
  width := header.width
  height := header.height
  bitDepth := 8
  channels := header.channels
  interlaced := false

namespace Codec

def decodeImage (codec : Codec) (bytes : Bytes) : Except Error (Qoi.Header × Bytes) :=
  (codec.decode bytes).mapError .undecodable

def encodeImage (codec : Codec) (header : Qoi.Header) (pixels : Bytes) :
    Except Error Bytes := do
  let writer ← (codec.writeHeader (pngHeader header)).mapError .unencodable
  let writer ← (codec.writeData writer pixels).mapError .unencodable
  (codec.finish writer).mapError .unencodable

def recode (codec : Codec) (bytes : Bytes) : Except Error Bytes := do
  let (header, pixels) ← codec.decodeImage bytes
  codec.encodeImage header pixels

end Codec

def lengthOfFailure : Int64 := -1

def recodedLength : Except Error Bytes → Int64
  | .ok bytes => .ofNat bytes.length
  | .error _ => lengthOfFailure

end ComputeBench.Image
