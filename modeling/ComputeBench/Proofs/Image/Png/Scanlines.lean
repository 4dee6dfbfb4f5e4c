import Mathlib
import ComputeBench.Image.Png.Reader
import ComputeBench.Proofs.Image.Png.Filters

namespace ComputeBench

variable {channels : Channels}

namespace Image

theorem bytes_pixelOf (channels : Channels) (block : Bytes)
    (whole : block.length = channels.count) :
    (pixelOf channels block).bytes channels = block := by
  cases channels with
  | rgb =>
      obtain ⟨red, green, blue, rfl⟩ := List.length_eq_three.mp whole
      rfl
  | rgba =>
      match block, whole with
      | [red, green, blue, alpha], _ => rfl

theorem flatMap_pixelsOf {count : Nat} {bytes : Bytes}
    (whole : bytes.length = channels.count * count) :
    (pixelsOf channels count bytes).flatMap (Pixel.bytes channels) = bytes :=
  flatMap_map_blocks whole (bytes_pixelOf channels)

theorem length_flatMap_bytes (channels : Channels) (pixels : List Pixel) :
    (pixels.flatMap (Pixel.bytes channels)).length = channels.count * pixels.length :=
  length_flatMap_of_mem fun pixel _ => pixel.length_bytes channels

end Image

theorem Channels.count_pos (channels : Channels) : 0 < channels.count := by
  cases channels with
  | rgb => decide
  | rgba => decide

namespace Png

theorem Filtered.length_flatten {pixelSize size : Nat} {above : Bytes} {lines stored : List Bytes}
    (filtered : Filtered pixelSize above lines stored)
    (whole : ∀ line ∈ lines, line.length = size) :
    stored.flatten.length = lines.length * (1 + size) := by
  have length : (stored.flatMap id).length = (1 + size) * stored.length :=
    length_flatMap_of_mem (filtered.length_of_mem whole)
  rw [← List.flatMap_id, length, filtered.length_eq, Nat.mul_comm]

theorem readPixels_filtered {header : Header} {pixels : Bytes}
    (filled : pixels.length = header.dataSize) {stored : List Bytes}
    (filtered : Filtered header.channels.count []
      (blocks header.lineSize header.height pixels) stored) :
    ∃ read, readPixels header stored.flatten = .ok read ∧
      read.flatMap (Pixel.bytes header.channels) = pixels := by
  have whole : ∀ line ∈ blocks header.lineSize header.height pixels,
      line.length = header.lineSize := length_of_mem_blocks filled
  have count : stored.length = header.height :=
    filtered.length_eq.trans (length_blocks _ _ _)
  have length : stored.flatten.length = header.height * (1 + header.lineSize) := by
    rw [filtered.length_flatten whole, length_blocks]
  have lines : blocks (1 + header.lineSize) header.height stored.flatten = stored := by
    rw [← count, blocks_flatten (filtered.length_of_mem whole)]
  have restored := filtered.restoreLines header.channels.count_pos #[]
  have reread : ∀ line ∈ blocks header.lineSize header.height pixels,
      (Image.pixelsOf header.channels header.width line).flatMap
        (Pixel.bytes header.channels) = line := by
    intro line member
    apply Image.flatMap_pixelsOf
    rw [whole line member, Header.lineSize, Nat.mul_comm]
  refine ⟨(blocks header.lineSize header.height pixels).flatMap
    (Image.pixelsOf header.channels header.width), ?_, ?_⟩
  · have kept : ((#[] : Array Bytes) ++
        blocks header.lineSize header.height pixels).toList =
          blocks header.lineSize header.height pixels := by simp
    simp only [readPixels, length, lines, restored, kept]
    rw [if_neg (not_not_intro rfl)]
    rfl
  · rw [List.flatMap_assoc, List.flatMap_congr reread, List.flatMap_id',
      flatten_blocks _ _ _ filled]

end Png

end ComputeBench
