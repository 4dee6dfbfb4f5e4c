import Mathlib
import ComputeBench.Bytes.RoundTrip
import ComputeBench.Image.Png.Reader

namespace ComputeBench.Png

structure Chunk.Writable (chunk : Chunk) : Prop where
  name : chunk.name.length = 4
  data : chunk.data.length < 2 ^ 31

theorem endChunk_writable : endChunk.Writable := ⟨rfl, by decide⟩

namespace Chunk

theorem length_encode (chunk : Chunk) (writable : chunk.Writable) :
    chunk.encode.length = chunk.data.length + 12 := by
  simp only [encode, List.length_append, BigEndian.length_encode, writable.name]
  omega

theorem read_encode (chunk : Chunk) (writable : chunk.Writable) (rest : Bytes) :
    read (chunk.encode ++ rest) = .ok (chunk, rest) := by
  obtain ⟨l0, l1, l2, l3, field, length⟩ :=
    BigEndian.exists_four_bytes (writable.data.trans (by decide))
  have body : (chunk.name ++ chunk.data).length = 4 + chunk.data.length := by
    rw [List.length_append, writable.name]
  have sum : BigEndian.decode (BigEndian.encode 4 (crc (chunk.name ++ chunk.data)).toNat) =
      (crc (chunk.name ++ chunk.data)).toNat := by
    rw [BigEndian.decode_encode]
    exact Nat.mod_eq_of_lt (UInt32.toNat_lt _)
  have checked : (BigEndian.encode 4 (crc (chunk.name ++ chunk.data)).toNat).length = 4 :=
    BigEndian.length_encode _ _
  simp only [encode, field, List.cons_append, List.nil_append, List.append_assoc, read, length]
  rw [← List.append_assoc chunk.name, List.splitAt_eq, List.take_left' body,
    List.drop_left' body]
  simp only [List.splitAt_eq, List.take_left' checked, List.drop_left' checked, body, checked,
    sum]
  simp [List.take_left' writable.name, List.drop_left' writable.name]

end Chunk

theorem readChunks_append (chunks : List Chunk) (writable : ∀ chunk ∈ chunks, chunk.Writable)
    (inner : ∀ chunk ∈ chunks, chunk.name ≠ endName) {fuel : Nat}
    (enough : chunks.length < fuel) :
    readChunks fuel (chunks.flatMap Chunk.encode ++ endChunk.encode) =
      .ok (chunks ++ [endChunk]) := by
  induction chunks generalizing fuel with
  | nil =>
      cases fuel with
      | zero => cases enough
      | succ fuel =>
          have read := endChunk.read_encode endChunk_writable []
          rw [List.append_nil] at read
          simp only [List.flatMap_nil, List.nil_append, readChunks, read, ok_bind]
          rfl
  | cons chunk rest ih =>
      cases fuel with
      | zero => cases enough
      | succ fuel =>
          have later : readChunks fuel (rest.flatMap Chunk.encode ++ endChunk.encode) =
              .ok (rest ++ [endChunk]) := by
            apply ih
            · exact fun other member => writable other (List.mem_cons_of_mem chunk member)
            · exact fun other member => inner other (List.mem_cons_of_mem chunk member)
            · exact Nat.lt_of_succ_lt_succ enough
          simp only [List.flatMap_cons, List.append_assoc, readChunks,
            chunk.read_encode (writable chunk List.mem_cons_self), ok_bind,
            if_neg (inner chunk List.mem_cons_self), later]
          rfl

theorem length_lt_encoded (chunks : List Chunk) (writable : ∀ chunk ∈ chunks, chunk.Writable) :
    chunks.length < (chunks.flatMap Chunk.encode ++ endChunk.encode).length := by
  induction chunks with
  | nil => decide
  | cons chunk rest ih =>
      have tail := ih fun other member => writable other (List.mem_cons_of_mem chunk member)
      have length := chunk.length_encode (writable chunk List.mem_cons_self)
      simp only [List.flatMap_cons, List.length_append, List.length_cons] at tail ⊢
      omega

theorem imageData_parts {parts : List Bytes} (nonempty : parts ≠ []) :
    imageData (parts.map (Chunk.mk dataName) ++ [endChunk]) = .ok parts.flatten := by
  obtain ⟨part, rest, rfl⟩ := List.exists_cons_of_ne_nil nonempty
  have named : ∀ chunk ∈ (part :: rest).map (Chunk.mk dataName),
      (chunk.name == dataName) = true := by
    intro chunk member
    obtain ⟨part, -, rfl⟩ := List.mem_map.mp member
    rfl
  have start : ((part :: rest).map (Chunk.mk dataName) ++ [endChunk]).dropWhile
      (fun chunk => !(chunk.name == dataName) && !chunk.isCritical) =
        (part :: rest).map (Chunk.mk dataName) ++ [endChunk] :=
    List.dropWhile_cons_of_neg (by simp)
  have stop : [endChunk].takeWhile (fun chunk => chunk.name == dataName) = [] := by decide
  have last : [endChunk].dropWhile (fun chunk => chunk.name == dataName) = [endChunk] := by
    decide
  have closed : ([endChunk].any fun chunk => chunk.isCritical && chunk.name != endName) =
      false := by decide
  simp only [imageData, start, List.takeWhile_append_of_pos named,
    List.dropWhile_append_of_pos named, stop, last, closed]
  simp [List.flatMap_map]

theorem layout_writable (header : Header) {parts : List Bytes}
    (short : ∀ part ∈ parts, part.length < 2 ^ 31) :
    ∀ chunk ∈ layout header parts, chunk.Writable := by
  intro chunk member
  simp only [layout, List.cons_append, List.mem_cons, List.mem_append, List.mem_map,
    List.not_mem_nil, or_false] at member
  rcases member with rfl | ⟨part, present, rfl⟩ | rfl
  · exact ⟨rfl, by simp [Header.encode]⟩
  · exact ⟨rfl, short part present⟩
  · exact endChunk_writable

theorem readChunks_layout (header : Header) {parts : List Bytes}
    (short : ∀ part ∈ parts, part.length < 2 ^ 31) :
    readChunks ((layout header parts).flatMap Chunk.encode).length
      ((layout header parts).flatMap Chunk.encode) = .ok (layout header parts) := by
  let inner : List Chunk := ⟨headerName, header.encode⟩ :: parts.map (Chunk.mk dataName)
  have parted : (layout header parts).flatMap Chunk.encode =
      inner.flatMap Chunk.encode ++ endChunk.encode := by
    simp [layout, inner]
  have writable : ∀ chunk ∈ inner, chunk.Writable := fun chunk member =>
    layout_writable header short chunk (List.mem_append_left _ member)
  have named : ∀ chunk ∈ inner, chunk.name ≠ endName := by
    intro chunk member
    rcases List.mem_cons.mp member with rfl | later
    · exact (by decide : headerName ≠ endName)
    · obtain ⟨part, -, rfl⟩ := List.mem_map.mp later
      exact (by decide : dataName ≠ endName)
  rw [parted]
  exact readChunks_append inner writable named (length_lt_encoded inner writable)

end ComputeBench.Png
