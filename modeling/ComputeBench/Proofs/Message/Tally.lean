import Mathlib
import ComputeBench.Proofs.Bytes.Words
import ComputeBench.Walk.Tally

namespace ComputeBench.Tally

@[simp] theorem length_encode (tally : Tally) : tally.encode.length = encodedSize := by
  simp [encode, encodedSize, wordSize]

theorem decode_encode (tally : Tally) : decode tally.encode = .ok tally := by
  have sum : tally.encode.take wordSize = encodeSigned tally.sum := by
    rw [encode, List.append_assoc, List.take_left' (length_encodeSigned _)]
  have least : (tally.encode.drop wordSize).take wordSize = encodeSigned tally.least := by
    rw [encode, List.append_assoc, List.drop_left' (length_encodeSigned _),
      List.take_left' (length_encodeSigned _)]
  have greatest : tally.encode.drop (2 * wordSize) = encodeSigned tally.greatest := by
    apply List.drop_left'
    simp [wordSize]
  rw [decode, if_pos tally.length_encode, sum, least, greatest]
  simp only [decodeSigned_encodeSigned]

theorem encode_eq_encodeWords (tally : Tally) :
    tally.encode = encodeWords [tally.sum, tally.least, tally.greatest] := by
  simp [encode, encodeWords]

def inBuffer (bytes : Bytes) : Tally :=
  ⟨wordAt bytes 0, wordAt bytes wordSize, wordAt bytes (2 * wordSize)⟩

variable {bytes : Bytes}

theorem decode_of_length (whole : bytes.length = encodedSize) :
    decode bytes = .ok (inBuffer bytes) := by
  have sum : decodeSigned (bytes.take wordSize) = wordAt bytes 0 :=
    decodeSigned_header (by rw [whole]; decide)
  have least : decodeSigned ((bytes.drop wordSize).take wordSize) = wordAt bytes wordSize :=
    decodeSigned_block (by rw [whole]; decide)
  have greatest : decodeSigned (bytes.drop (2 * wordSize)) = wordAt bytes (2 * wordSize) := by
    have last : (bytes.drop (2 * wordSize)).length = wordSize := by
      rw [List.length_drop, whole]
      rfl
    rw [← decodeSigned_block (by rw [whole]; decide), List.take_of_length_le last.le]
  rw [decode, if_pos whole, sum, least, greatest, inBuffer]

theorem encode_inBuffer (whole : bytes.length = encodedSize) :
    (inBuffer bytes).encode = bytes := by
  have words : bytes.length = 0 + wordSize * 3 := whole
  exact (encode_eq_encodeWords _).trans (encodeWords_wordsAt words)

theorem decode_of_length_ne (other : bytes.length ≠ encodedSize) :
    decode bytes = .error (.truncated encodedSize bytes.length) :=
  if_neg other

theorem encode_injective : Function.Injective encode := by
  intro tally other same
  have decoded := tally.decode_encode
  rw [same, other.decode_encode] at decoded
  exact (Except.ok.inj decoded).symm

/-- Tallies and buffers of 24 bytes are in bijection, the sum in the first word, the least sample in
the second and the greatest in the third. A buffer that is shorter or longer is refused. -/
theorem wire_words_bijection :
    (∀ tally : Tally, tally.encode.length = 24 ∧ decode tally.encode = .ok tally) ∧
    (∀ bytes : Bytes, bytes.length = 24 →
      ∃ tally, decode bytes = .ok tally ∧ tally.encode = bytes ∧
        tally.sum = wordAt bytes 0 ∧ tally.least = wordAt bytes 8 ∧
          tally.greatest = wordAt bytes 16) ∧
    (∀ bytes : Bytes, bytes.length ≠ 24 →
      decode bytes = .error (.truncated 24 bytes.length)) ∧
    Function.Injective encode := by
  refine ⟨fun tally => ⟨tally.length_encode, tally.decode_encode⟩, ?_,
    fun bytes => decode_of_length_ne, encode_injective⟩
  intro bytes whole
  exact ⟨inBuffer bytes, decode_of_length whole, encode_inBuffer whole, rfl, rfl, rfl⟩

/-- The words -1, 0 and 1 are read although no walk answers with them; a byte less or a byte more is
refused. -/
theorem wire_words_bijection_any_words :
    (∃ tally, decode (List.replicate 8 255 ++ List.replicate 8 0 ++ 1 :: List.replicate 7 0) =
        .ok tally ∧ tally = ⟨-1, 0, 1⟩ ∧
      tally.encode = List.replicate 8 255 ++ List.replicate 8 0 ++ 1 :: List.replicate 7 0) ∧
    decode (List.replicate 23 0) = .error (.truncated 24 23) ∧
    decode (List.replicate 25 0) = .error (.truncated 24 25) := by
  obtain ⟨-, read, refused, -⟩ := wire_words_bijection
  obtain ⟨⟨sum, least, greatest⟩, decoded, encoded, first, second, third⟩ :=
    read (List.replicate 8 255 ++ List.replicate 8 0 ++ 1 :: List.replicate 7 0) (by decide)
  have sumWord : sum = -1 := first.trans (by decide +kernel)
  have leastWord : least = 0 := second.trans (by decide +kernel)
  have greatestWord : greatest = 1 := third.trans (by decide +kernel)
  subst sumWord leastWord greatestWord
  exact ⟨⟨_, decoded, rfl, encoded⟩, refused (List.replicate 23 0) (by decide),
    refused (List.replicate 25 0) (by decide)⟩

end ComputeBench.Tally
