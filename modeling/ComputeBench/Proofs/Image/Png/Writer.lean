import Mathlib
import ComputeBench.Image.Conformance
import ComputeBench.Image.Png.Writer
import ComputeBench.Proofs.Image.Deflate.Stored
import ComputeBench.Proofs.Image.Png.Chunks
import ComputeBench.Proofs.Image.Png.Scanlines

namespace ComputeBench

theorem Zlib.compresses_wrap (data : Bytes) : Compresses data (wrap data) :=
  .stream 0x78 0x01 (Deflate.store data) (by decide) (Deflate.inflate_store data)

namespace Png

theorem Filter.none_apply (pixelSize : Nat) (above line : Bytes) :
    Filter.none.apply pixelSize above line = line := by
  apply List.ext_getElem
  · exact List.length_mapIdx
  · intro place before after
    simp [Filter.apply, Filter.prediction]

theorem filtered_none (pixelSize : Nat) (above : Bytes) (lines : List Bytes) :
    Filtered pixelSize above lines (lines.map (0 :: ·)) := by
  induction lines generalizing above with
  | nil => exact .done above
  | cons line lines ih =>
      have stored := Filtered.line .none above line lines _ (ih line)
      rwa [Filter.none_apply] at stored

theorem scanlines_eq_flatten (header : Header) (pixels : Bytes) :
    scanlines header pixels =
      ((blocks header.lineSize header.height pixels).map (0 :: ·)).flatten :=
  List.flatMap_def

theorem flatten_cut (full : Nat) (data : Bytes) : (cut full data).flatten = data := by
  induction full generalizing data with
  | zero => simp [cut]
  | succ full ih => rw [cut, List.flatten_cons, ih, List.take_append_drop]

theorem length_cut (full : Nat) (data : Bytes) : (cut full data).length = full + 1 := by
  induction full generalizing data with
  | zero => rfl
  | succ full ih => rw [cut, List.length_cons, ih]

theorem length_of_mem_cut {full : Nat} {data : Bytes}
    (fits : data.length ≤ (full + 1) * maxPart) :
    ∀ part ∈ cut full data, part.length ≤ maxPart := by
  induction full generalizing data with
  | zero =>
      intro part member
      rw [List.mem_singleton.mp member]
      rwa [Nat.zero_add, Nat.one_mul] at fits
  | succ full ih =>
      have later : (data.drop maxPart).length ≤ (full + 1) * maxPart := by
        rw [List.length_drop]
        rw [Nat.add_one_mul] at fits
        omega
      intro part member
      rcases List.mem_cons.mp member with rfl | member
      · exact List.length_take_le _ _
      · exact ih later part member

theorem parts_ne_nil (data : Bytes) : parts data ≠ [] :=
  List.ne_nil_of_length_pos (by rw [parts, length_cut]; exact Nat.succ_pos _)

theorem parts_short (data : Bytes) : ∀ part ∈ parts data, part.length < 2 ^ 31 := by
  have fits : data.length ≤ ((data.length - 1) / maxPart + 1) * maxPart := by
    simp only [maxPart]
    omega
  intro part member
  exact (length_of_mem_cut fits part member).trans_lt (by decide)

variable {header : Header} {pixels : Bytes}

theorem encodes_assemble (header : Header) (pixels : Bytes) :
    Encodes header pixels (assemble header (parts (Zlib.wrap (scanlines header pixels)))) := by
  have compressed := Zlib.compresses_wrap (scanlines header pixels)
  rw [scanlines_eq_flatten] at compressed ⊢
  refine .file _ _ (filtered_none _ _ _) ?_ (parts_ne_nil _) (parts_short _)
  rwa [parts, flatten_cut]

theorem length_flatMap_encode {chunks : List Chunk} (writable : ∀ chunk ∈ chunks, chunk.Writable) :
    (chunks.flatMap Chunk.encode).length =
      (chunks.flatMap Chunk.data).length + 12 * chunks.length := by
  induction chunks with
  | nil => rfl
  | cons chunk rest ih =>
      have tail := ih fun other member => writable other (List.mem_cons_of_mem chunk member)
      have length := chunk.length_encode (writable chunk List.mem_cons_self)
      simp only [List.flatMap_cons, List.length_append, List.length_cons, tail, length]
      omega

theorem length_assemble (header : Header) {parts : List Bytes}
    (short : ∀ part ∈ parts, part.length < 2 ^ 31) :
    (assemble header parts).length = parts.flatten.length + 12 * parts.length + 45 := by
  have data : ((layout header parts).flatMap Chunk.data).length = parts.flatten.length + 13 := by
    simp [layout, endChunk, Header.encode, List.flatMap_map]
    omega
  have count : (layout header parts).length = parts.length + 2 := by simp [layout]
  rw [assemble, List.length_append, length_flatMap_encode (layout_writable header short), data,
    count]
  simp only [signature, List.length_cons, List.length_nil]
  omega

theorem length_scanlines (filled : pixels.length = header.dataSize) :
    (scanlines header pixels).length = header.height * (1 + header.lineSize) := by
  rw [scanlines_eq_flatten, (filtered_none header.channels.count [] _).length_flatten
    (length_of_mem_blocks filled), length_blocks]

theorem three_le_lineSize (writable : header.Writable) : 3 ≤ header.lineSize := by
  have three : 3 ≤ header.channels.count := by cases header.channels <;> decide
  exact three.trans (Nat.le_mul_of_pos_left _ writable.width_pos)

theorem length_assemble_le (writable : header.Writable)
    (filled : pixels.length = header.dataSize) :
    (assemble header (parts (Zlib.wrap (scanlines header pixels)))).length ≤ maxAllocation := by
  have room := writable.room
  have rows : header.height * 3 ≤ header.dataSize := by
    rw [Header.dataSize, Nat.mul_comm header.lineSize]
    exact Nat.mul_le_mul_left _ (three_le_lineSize writable)
  have lines : (scanlines header pixels).length = header.height + header.dataSize := by
    rw [length_scanlines filled, Header.dataSize, Nat.mul_add, Nat.mul_one,
      Nat.mul_comm header.height]
  have stream := Zlib.length_wrap (scanlines header pixels)
  rw [length_assemble header (parts_short _), parts, flatten_cut, length_cut]
  simp only [maxAllocation, maxPart, Deflate.maxStored] at room stream ⊢
  omega

theorem Writer.start_of_writable (writable : header.Writable) :
    Writer.start header = .ok ⟨header, none⟩ := by
  have within : ¬ (maxDimension < header.width ∨ maxDimension < header.height) :=
    not_or.mpr ⟨not_lt.mpr writable.width_le, not_lt.mpr writable.height_le⟩
  rw [Writer.start, if_neg writable.width_pos.ne', if_neg writable.height_pos.ne', if_neg within]

theorem Writer.put_of_filled (filled : pixels.length = header.dataSize) :
    (Writer.mk header none).put pixels = .ok ⟨header, some pixels⟩ :=
  if_neg (not_not_intro filled)

end Png

end ComputeBench
