import Mathlib
import ComputeBench.Image.Conformance
import ComputeBench.Proofs.Image.Png.Chunks
import ComputeBench.Proofs.Image.Png.Scanlines

namespace ComputeBench

theorem Zlib.Compresses.unwrap {data stream : Bytes} (compressed : Compresses data stream) :
    Zlib.unwrap stream = .ok data := by
  cases compressed with
  | stream method flags deflated known inflates =>
      simp only [Zlib.unwrap, known, if_pos, inflates, ok_bind]
      rfl

namespace Png

structure File.Holds (file : File) (header : Header) (pixels : Bytes) : Prop where
  chunks : ∃ count, 0 < count ∧ file.chunks.map Chunk.name =
    headerName :: (List.replicate count dataName ++ [endName])
  writable : ∀ chunk ∈ file.chunks, chunk.Writable
  opening : file.header = header
  width : file.image.width = header.width
  height : file.image.height = header.height
  channels : file.image.channels = header.channels
  bytes : file.image.bytes = pixels

variable {header : Header}

theorem readHeader_encode (writable : header.Writable) :
    readHeader header.encode = .ok header := by
  obtain ⟨w0, w1, w2, w3, widthField, width⟩ :=
    BigEndian.exists_four_bytes (writable.width_le.trans_lt (by decide))
  obtain ⟨h0, h1, h2, h3, heightField, height⟩ :=
    BigEndian.exists_four_bytes (writable.height_le.trans_lt (by decide))
  have within : ¬ (header.width = 0 ∨ header.height = 0 ∨ maxDimension < header.width ∨
      maxDimension < header.height) := by
    have widthPos := writable.width_pos
    have heightPos := writable.height_pos
    have widthLe := writable.width_le
    have heightLe := writable.height_le
    omega
  obtain ⟨eightBit, plain⟩ := And.intro writable.eightBit writable.plain
  cases header with
  | mk columns rows bitDepth channels interlaced =>
      cases eightBit
      cases plain
      simp only at widthField heightField width height within
      cases channels with
      | rgb =>
          simp [Header.encode, widthField, heightField, colorType, readHeader, width, height,
            within]
          rfl
      | rgba =>
          simp [Header.encode, widthField, heightField, colorType, readHeader, width, height,
            within]
          rfl

theorem readSignature_signature (rest : Bytes) : readSignature (signature ++ rest) = .ok rest := by
  simp [readSignature]

theorem Encodes.length_pos {pixels stored : Bytes} (encodes : Encodes header pixels stored) :
    0 < stored.length := by
  cases encodes with
  | file lines parts filtered compressed nonempty short => exact Nat.succ_pos _

/-- A file of the format is read back to its header and its pixels. -/
theorem read_of_encodes (writable : header.Writable) {pixels stored : Bytes}
    (filled : pixels.length = header.dataSize) (encodes : Encodes header pixels stored) :
    ∃ file, read stored = .ok file ∧ file.Holds header pixels := by
  cases encodes with
  | file lines parts filtered compressed nonempty short =>
      obtain ⟨pixels, reread, bytes⟩ := readPixels_filtered filled filtered
      have apart := readChunks_layout header short
      have named : ¬ headerName ≠ headerName := not_not_intro rfl
      have opened := readHeader_encode writable
      have plain : ¬ header.interlaced = true := by simp [writable.plain]
      have data := imageData_parts nonempty
      refine ⟨⟨layout header parts, header,
        ⟨header.width, header.height, header.channels, pixels⟩⟩, ?_, ?_⟩
      · simp only [read, assemble, readSignature_signature, ok_bind, apart]
        simp only [layout, List.cons_append, if_neg named, opened, if_neg plain, data,
          compressed.unwrap, Except.mapError, ok_bind, reread]
        rfl
      · exact {
          chunks := ⟨parts.length, List.length_pos_of_ne_nil nonempty, by
            simp [layout, endChunk, Function.comp_def]⟩
          writable := layout_writable header short
          opening := rfl
          width := rfl
          height := rfl
          channels := rfl
          bytes := bytes }

end Png

end ComputeBench
