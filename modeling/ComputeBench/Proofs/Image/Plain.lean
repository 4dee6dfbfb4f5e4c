import Mathlib
import ComputeBench.Image.Recode
import ComputeBench.Proofs.Image.Png.Writer
import ComputeBench.Proofs.Image.Qoi.Decoder

namespace ComputeBench.Image.Codec

theorem plain_followsRules : plain.FollowsRules where
  decodes bytes header pixels decoded := by
    rw [← Qoi.decode_eq_rules] at decoded
    simp only [plain, decoded]
  refuses bytes error refused := by
    rw [← Qoi.decode_eq_rules] at refused
    simp only [plain, refused]

theorem plain_writeHeader {header : Png.Header} (writable : header.Writable) :
    plain.writeHeader header = .ok (⟨header, none⟩ : Png.Writer) :=
  congrArg (Except.mapError _) (Png.Writer.start_of_writable writable)

theorem plain_writeData {header : Png.Header} {pixels : Bytes}
    (filled : pixels.length = header.dataSize) :
    plain.writeData (⟨header, none⟩ : Png.Writer) pixels =
      .ok (⟨header, some pixels⟩ : Png.Writer) :=
  congrArg (Except.mapError _) (Png.Writer.put_of_filled filled)

theorem plain_writesFiles : plain.WritesFiles where
  opens header writable := ⟨_, plain_writeHeader writable⟩
  fills header writer pixels writable opened filled := by
    cases (plain_writeHeader writable).symm.trans opened
    exact ⟨_, plain_writeData filled⟩
  closes header writer pixels filled writable opened whole put := by
    cases (plain_writeHeader writable).symm.trans opened
    cases (plain_writeData whole).symm.trans put
    exact ⟨_, rfl, Png.encodes_assemble header pixels, Png.length_assemble_le writable whole⟩

end ComputeBench.Image.Codec
