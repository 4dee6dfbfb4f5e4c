import Mathlib
import ComputeBench.Proofs.Image.Plain
import ComputeBench.Proofs.Image.Png.RoundTrip
import ComputeBench.Proofs.Image.Qoi.Encoder

namespace ComputeBench

theorem Image.length_bytes (image : Image) :
    image.bytes.length = image.channels.count * image.pixels.length :=
  length_flatMap_bytes image.channels image.pixels

theorem Channels.count_le (channels : Channels) : channels.count ≤ 4 := by
  cases channels with
  | rgb => decide
  | rgba => decide

namespace Image

section Decoded

variable {bytes : Bytes} {header : Qoi.Header} {pixels : List Pixel}
  (decoded : Qoi.Rules.decode bytes = .ok (header, pixels))
include decoded

theorem filled_of_decode :
    (pixels.flatMap (Pixel.bytes header.channels)).length = (pngHeader header).dataSize := by
  rw [length_flatMap_bytes, (Qoi.Rules.decode_filled decoded).1, Png.Header.dataSize,
    Png.Header.lineSize, pngHeader]
  ring

theorem writable_of_decode : (pngHeader header).Writable := by
  obtain ⟨filled, area, bound⟩ := Qoi.Rules.decode_filled decoded
  have width : 0 < header.width := Nat.pos_of_mul_pos_right area
  have height : 0 < header.height := Nat.pos_of_mul_pos_left area
  have limit : Qoi.maxPixels ≤ Png.maxDimension := by decide
  have room : 2 * (4 * Qoi.maxPixels) ≤ maxAllocation := by decide
  have size : (pngHeader header).dataSize ≤ 4 * Qoi.maxPixels := by
    calc (pngHeader header).dataSize
        = header.channels.count * (header.width * header.height) := by
          rw [Png.Header.dataSize, Png.Header.lineSize, pngHeader]
          ring
      _ ≤ 4 * Qoi.maxPixels := Nat.mul_le_mul header.channels.count_le bound
  exact {
    width_pos := width
    width_le := (Nat.le_mul_of_pos_right _ height).trans (bound.trans limit)
    height_pos := height
    height_le := (Nat.le_mul_of_pos_left _ width).trans (bound.trans limit)
    eightBit := rfl
    plain := rfl
    room := (Nat.mul_le_mul_left 2 size).trans room }

end Decoded

variable {codec : Codec}

theorem Codec.FollowsRules.exists_of_decode (follows : codec.FollowsRules) {bytes data : Bytes}
    {header : Qoi.Header} (decoded : codec.decode bytes = .ok (header, data)) :
    ∃ pixels, Qoi.Rules.decode bytes = .ok (header, pixels) ∧
      data = pixels.flatMap (Pixel.bytes header.channels) := by
  cases ruled : Qoi.Rules.decode bytes with
  | error error => cases (follows.refuses bytes error ruled).symm.trans decoded
  | ok result =>
      obtain ⟨opening, pixels⟩ := result
      cases (follows.decodes bytes opening pixels ruled).symm.trans decoded
      exact ⟨pixels, rfl, rfl⟩

theorem Codec.WritesFiles.encodeImage (writes : codec.WritesFiles) {header : Qoi.Header}
    {pixels : Bytes} (writable : (pngHeader header).Writable)
    (filled : pixels.length = (pngHeader header).dataSize) :
    ∃ stored, codec.encodeImage header pixels = .ok stored ∧
      Png.Encodes (pngHeader header) pixels stored ∧ stored.length ≤ maxAllocation := by
  obtain ⟨writer, opened⟩ := writes.opens _ writable
  obtain ⟨full, put⟩ := writes.fills _ _ _ writable opened filled
  obtain ⟨stored, closed, encodes, short⟩ := writes.closes _ _ _ _ writable opened filled put
  refine ⟨stored, ?_, encodes, short⟩
  simp only [Codec.encodeImage, opened, put, closed, Except.mapError, ok_bind]

theorem recode_of_decode {bytes data stored : Bytes} {header : Qoi.Header}
    (decoded : codec.decode bytes = .ok (header, data))
    (encoded : codec.encodeImage header data = .ok stored) :
    codec.recode bytes = .ok stored := by
  rw [Codec.recode, Codec.decodeImage, decoded]
  exact encoded

theorem toInt_recodedLength {stored : Bytes} (short : stored.length ≤ maxAllocation) :
    (recodedLength (.ok stored)).toInt = stored.length :=
  Int64.toInt_ofNat_of_lt (Nat.lt_succ_of_le short)

theorem recode_holds (follows : codec.FollowsRules) (writes : codec.WritesFiles)
    {bytes data : Bytes} {header : Qoi.Header}
    (decoded : codec.decode bytes = .ok (header, data)) :
    data.length = header.width * header.height * header.channels.count ∧
      ∃ stored file, codec.recode bytes = .ok stored ∧ Png.read stored = .ok file ∧
        file.Holds (pngHeader header) data ∧
        (recodedLength (codec.recode bytes)).toInt = stored.length ∧ 0 < stored.length := by
  obtain ⟨pixels, ruled, rfl⟩ := follows.exists_of_decode decoded
  have writable := writable_of_decode ruled
  have filled := filled_of_decode ruled
  obtain ⟨stored, encoded, encodes, short⟩ := writes.encodeImage writable filled
  have recoded := recode_of_decode decoded encoded
  obtain ⟨file, read, holds⟩ := Png.read_of_encodes writable filled encodes
  refine ⟨?_, stored, file, recoded, read, holds, ?_, encodes.length_pos⟩
  · rw [filled, Png.Header.dataSize, Png.Header.lineSize, pngHeader]
    ring
  · rw [recoded, toInt_recodedLength short]

/-- Whatever ops an image is encoded by, the decoder gives the image back, and the file made of the
stream holds it. -/
theorem recode_undoes_encoder (codec : Codec) (follows : codec.FollowsRules)
    (writes : codec.WritesFiles) (image : Image) (encodable : Qoi.Encodable image)
    (ops : List Qoi.Op) (encodes : Qoi.Encodes image.channels .start ops image.pixels)
    (colorSpace : Qoi.ColorSpace) :
    codec.decode (Qoi.encode ⟨image.width, image.height, image.channels, colorSpace⟩ ops) =
      .ok (⟨image.width, image.height, image.channels, colorSpace⟩, image.bytes) ∧
    ∃ stored file,
      codec.recode (Qoi.encode ⟨image.width, image.height, image.channels, colorSpace⟩ ops) =
        .ok stored ∧
      Png.read stored = .ok file ∧
      file.Holds ⟨image.width, image.height, 8, image.channels, false⟩ image.bytes := by
  have ruled := Qoi.decode_encode encodable encodes colorSpace
  have decoded := follows.decodes _ _ _ ruled
  obtain ⟨-, stored, file, recoded, read, holds, -⟩ := recode_holds follows writes decoded
  exact ⟨decoded, stored, file, recoded, read, holds⟩

/-- A run of the first pixel, differences that wrap, a slot stored before and one never stored, a
colour with alpha and one without. -/
def everyOpImage : Image :=
  ⟨4, 2, .rgba, [⟨0, 0, 0, 255⟩, ⟨0, 0, 0, 255⟩, ⟨1, 255, 0, 255⟩, ⟨38, 29, 22, 255⟩,
    ⟨1, 255, 0, 255⟩, ⟨9, 8, 7, 6⟩, ⟨200, 100, 50, 6⟩, ⟨0, 0, 0, 0⟩]⟩

theorem everyOpImage_encodes :
    Qoi.Encodes everyOpImage.channels .start
      [.run 1, .diff 3 1 2, .luma 62 15 0, .index 51, .rgba 9 8 7 6, .rgb 200 100 50, .index 0]
      everyOpImage.pixels :=
  .run _ 1 _ _ <|
  .states _ _ ⟨1, 255, 0, 255⟩ _ _ (.diff 3 1 2 rfl (by decide) (by decide) (by decide)) <|
  .states _ _ ⟨38, 29, 22, 255⟩ _ _ (.luma 62 15 0 rfl (by decide) (by decide) (by decide)) <|
  .index _ 51 ⟨1, 255, 0, 255⟩ _ _ rfl <|
  .states _ _ ⟨9, 8, 7, 6⟩ _ _ (.rgba rfl) <|
  .states _ _ ⟨200, 100, 50, 6⟩ _ _ (.rgb rfl) <|
  .index _ 0 ⟨0, 0, 0, 0⟩ _ _ rfl <|
  .done _

theorem recode_undoes_every_op :
    Codec.plain.FollowsRules ∧ Codec.plain.WritesFiles ∧ Qoi.Encodable everyOpImage ∧
      ∃ ops, Qoi.Encodes everyOpImage.channels .start ops everyOpImage.pixels ∧
        ops.length = 7 ∧
        ∃ stored file,
          Codec.plain.recode (Qoi.encode ⟨4, 2, .rgba, .linear⟩ ops) = .ok stored ∧
          Png.read stored = .ok file ∧ file.header = ⟨4, 2, 8, .rgba, false⟩ ∧
          file.image.bytes = everyOpImage.bytes := by
  have encodable : Qoi.Encodable everyOpImage :=
    ⟨by decide, by decide, rfl, fun _ _ same => (nomatch same)⟩
  obtain ⟨-, stored, file, recoded, read, holds⟩ :=
    recode_undoes_encoder .plain Codec.plain_followsRules Codec.plain_writesFiles everyOpImage
      encodable _ everyOpImage_encodes .linear
  exact ⟨Codec.plain_followsRules, Codec.plain_writesFiles, encodable, _, everyOpImage_encodes,
    rfl, stored, file, recoded, read, holds.opening, holds.bytes⟩

end Image

end ComputeBench
