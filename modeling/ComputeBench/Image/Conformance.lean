import ComputeBench.Capacity
import ComputeBench.Image.Codec
import ComputeBench.Image.Png.Encoding
import ComputeBench.Image.Qoi.Rules

/-! What recoding relies on in its codec. -/

namespace ComputeBench

/-- An image of eight bits to a channel, in no more than half of the storage, so that its file fits
the other half. -/
structure Png.Header.Writable (header : Header) : Prop where
  width_pos : 0 < header.width
  width_le : header.width ≤ maxDimension
  height_pos : 0 < header.height
  height_le : header.height ≤ maxDimension
  eightBit : header.bitDepth = 8
  plain : header.interlaced = false
  room : 2 * header.dataSize ≤ maxAllocation

namespace Image.Codec

/-- The decoder reads what the rules of its format read, and refuses what they refuse. -/
structure FollowsRules (codec : Codec) : Prop where
  decodes : ∀ bytes header pixels, Qoi.Rules.decode bytes = .ok (header, pixels) →
    codec.decode bytes = .ok (header, pixels.flatMap (Pixel.bytes header.channels))
  refuses : ∀ bytes error, Qoi.Rules.decode bytes = .error error →
    codec.decode bytes = .error error.message

/-- The encoder takes every header it can write and the pixels that fill it, and when it is closed
its file is one that the format allows for them. -/
structure WritesFiles (codec : Codec) : Prop where
  opens : ∀ header : Png.Header, header.Writable →
    ∃ writer, codec.writeHeader header = .ok writer
  fills : ∀ (header : Png.Header) writer pixels, header.Writable →
    codec.writeHeader header = .ok writer → pixels.length = header.dataSize →
    ∃ filled, codec.writeData writer pixels = .ok filled
  closes : ∀ (header : Png.Header) writer pixels filled, header.Writable →
    codec.writeHeader header = .ok writer → pixels.length = header.dataSize →
    codec.writeData writer pixels = .ok filled →
    ∃ file, codec.finish filled = .ok file ∧ Png.Encodes header pixels file ∧
      file.length ≤ maxAllocation

end Image.Codec

end ComputeBench
