import ComputeBench.Image.Codec
import ComputeBench.Image.Png.Writer
import ComputeBench.Image.Qoi.Decoder

namespace ComputeBench.Image

def Codec.plain : Codec where
  decode bytes :=
    match Qoi.decode bytes with
    | .ok (header, pixels) => .ok (header, pixels.flatMap (Pixel.bytes header.channels))
    | .error error => .error error.message
  Writer := Png.Writer
  writeHeader header := (Png.Writer.start header).mapError Png.Refusal.message
  writeData writer pixels := (writer.put pixels).mapError Png.Refusal.message
  finish writer := writer.finish.mapError Png.Refusal.message

end ComputeBench.Image
