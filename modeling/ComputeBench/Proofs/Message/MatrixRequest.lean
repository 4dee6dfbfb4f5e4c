import Mathlib
import ComputeBench.Message.MatrixRequest
import ComputeBench.Proofs.Bytes.Words

namespace ComputeBench

theorem ofNat_of_toInt {word : Int64} {number : Nat} (exact : word.toInt = number) :
    Int64.ofNat number = word := by
  rw [← Int64.ofInt_eq_ofNat, ← exact, Int64.ofInt_toInt]

theorem splitHeader_encodeMatrix (rows : Nat) (values : Array Int64) :
    splitHeader (encodeMatrix rows values) =
      .ok (encodeSigned (.ofNat rows), encodeWords values.toList) :=
  splitHeader_append _ _ (length_encodeSigned _)

theorem length_encodeMatrix (rows : Nat) (values : Array Int64) :
    (encodeMatrix rows values).length = wordSize + wordSize * values.size := by
  rw [encodeMatrix, List.length_append, length_encodeSigned, length_encodeWords,
    Array.length_toList]

theorem writeMatrix_eq_ok {rows : Nat} {values : Array Int64} {bytes : Bytes} :
    writeMatrix rows values = .ok bytes ↔
      (values.size + 1) * wordSize ≤ maxAllocation ∧ encodeMatrix rows values = bytes := by
  simp only [writeMatrix, bind_eq_ok, allocate_eq_ok]
  constructor
  · rintro ⟨_, storable, same⟩
    exact ⟨storable, Except.ok.inj same⟩
  · rintro ⟨storable, rfl⟩
    exact ⟨(), storable, rfl⟩

theorem toInt_wordAt_encodeMatrix {rows : Nat} (signed : rows < 2 ^ 63)
    (values : Array Int64) : (wordAt (encodeMatrix rows values) 0).toInt = rows := by
  rw [encodeMatrix, wordAt_header, Int64.toInt_ofNat_of_lt signed]

theorem encodeMatrix_of_whole {bytes : Bytes} {rows count : Nat}
    (header : (wordAt bytes 0).toInt = rows)
    (whole : bytes.length = headerSize + wordSize * count) :
    encodeMatrix rows (wordsAt bytes headerSize count).toArray = bytes := by
  have long : headerSize ≤ bytes.length := by omega
  rw [encodeMatrix, ofNat_of_toInt header, encodeSigned_wordAt long,
    encodeWords_wordsAt whole, List.take_append_drop]

namespace MatrixRequest

variable {header : Int64} {values : List Int64}

def ofWords (header : Int64) (values : List Int64) : Except Error MatrixRequest :=
  if header.toInt.toNat = 0 ∨ values.length % header.toInt.toNat ≠ 0 then
    .error (.invalidRows header)
  else
    .ok ⟨header.toInt.toNat, values.length / header.toInt.toNat, values.toArray⟩

theorem ofWords_of_divides (positive : 0 < header.toInt)
    (divides : header.toInt ∣ values.length) :
    ofWords header values =
      .ok ⟨header.toInt.toNat, values.length / header.toInt.toNat, values.toArray⟩ := by
  obtain ⟨rows, exact⟩ := Int.eq_ofNat_of_zero_le positive.le
  rw [exact] at positive divides
  rw [ofWords, exact, Int.toNat_natCast, if_neg]
  rintro (zero | uneven)
  · omega
  · exact uneven (Nat.mod_eq_zero_of_dvd (Int.natCast_dvd_natCast.mp divides))

theorem ofWords_of_not_divides
    (refused : header.toInt ≤ 0 ∨ ¬ header.toInt ∣ values.length) :
    ofWords header values = .error (.invalidRows header) := by
  rw [ofWords, if_pos]
  rcases lt_or_ge 0 header.toInt with positive | negative
  · obtain ⟨rows, exact⟩ := Int.eq_ofNat_of_zero_le positive.le
    have uneven := refused.resolve_left (not_le.mpr positive)
    rw [exact, Int.natCast_dvd_natCast] at uneven
    rw [exact, Int.toNat_natCast]
    exact .inr (mt Nat.dvd_of_mod_eq_zero uneven)
  · exact .inl (Int.toNat_of_nonpos negative)

theorem decode_of_words {bytes header body : Bytes} {values : List Int64}
    (split : splitHeader bytes = .ok (header, body))
    (words : decodeWords body = .ok values) :
    decode bytes = ofWords (decodeSigned header) values := by
  rw [decode, split, ok_bind]
  simp only [words, ok_bind]
  rw [ofWords]
  split
  · rfl
  · rfl

theorem decode_of_partial {bytes : Bytes} (long : headerSize ≤ bytes.length)
    (rest : ¬ wordSize ∣ bytes.length - headerSize) :
    decode bytes = .error (.partialWord (bytes.length - headerSize)) := by
  rw [← List.length_drop] at rest ⊢
  rw [decode, splitHeader_of_le long, ok_bind]
  simp only [decodeWords_of_partial rest, error_bind]

theorem decode_of_whole {bytes : Bytes} {count : Nat}
    (whole : bytes.length = headerSize + wordSize * count) :
    decode bytes = ofWords (wordAt bytes 0) (wordsAt bytes headerSize count) := by
  have long : headerSize ≤ bytes.length := by omega
  have body : (bytes.drop headerSize).length = wordSize * count := by
    rw [List.length_drop, whole, Nat.add_sub_cancel_left]
  rw [decode_of_words (splitHeader_of_le long) (decodeWords_of_whole body),
    decodeSigned_header long, map_blocks_decodeSigned whole]

theorem decode_encode (request : MatrixRequest) :
    decode request.encode = ofWords (.ofNat request.rows) request.values.toList := by
  rw [encode, decode_of_words (splitHeader_encodeMatrix _ _) (decodeWords_encodeWords _),
    decodeSigned_encodeSigned]

/-- The requests that come back from their own bytes. -/
structure Whole (request : MatrixRequest) : Prop where
  positive : 0 < request.rows
  signed : request.rows < 2 ^ 63
  filled : request.values.size = request.rows * request.cols

theorem Whole.decode_encode {request : MatrixRequest} (whole : request.Whole) :
    decode request.encode = .ok request := by
  have header : (Int64.ofNat request.rows).toInt = request.rows :=
    Int64.toInt_ofNat_of_lt whole.signed
  have divides : (Int64.ofNat request.rows).toInt ∣ request.values.toList.length := by
    rw [header, Array.length_toList, whole.filled, Int.natCast_dvd_natCast]
    exact Nat.dvd_mul_right _ _
  have positive : 0 < (Int64.ofNat request.rows).toInt := by
    rw [header]
    exact Int.natCast_pos.mpr whole.positive
  rw [MatrixRequest.decode_encode, ofWords_of_divides positive divides, header,
    Int.toNat_natCast, Array.length_toList, Array.toArray_toList, whole.filled,
    Nat.mul_div_cancel_left _ whole.positive]

theorem whole_of_ofWords {request : MatrixRequest}
    (accepted : ofWords header values = .ok request) : request.Whole := by
  by_cases divides : 0 < header.toInt ∧ header.toInt ∣ values.length
  · obtain ⟨positive, divides⟩ := divides
    rw [ofWords_of_divides positive divides] at accepted
    cases accepted
    have exact : (header.toInt.toNat : Int) = header.toInt :=
      Int.toNat_of_nonneg positive.le
    rw [← exact, Int.natCast_dvd_natCast] at divides
    have signed : header.toInt.toNat < 2 ^ 63 := by
      have bound := header.toInt_lt
      omega
    exact ⟨Int.lt_toNat.mpr positive, signed, (Nat.mul_div_cancel' divides).symm⟩
  · have refused : header.toInt ≤ 0 ∨ ¬ header.toInt ∣ values.length := by
      rwa [not_and_or, not_lt] at divides
    rw [ofWords_of_not_divides refused] at accepted
    cases accepted

theorem decode_encode_iff (request : MatrixRequest) :
    decode request.encode = .ok request ↔ request.Whole :=
  ⟨fun decoded => whole_of_ofWords (decode_encode request ▸ decoded), Whole.decode_encode⟩

theorem encode_of_whole {bytes : Bytes} {count cols : Nat}
    (whole : bytes.length = headerSize + wordSize * count)
    (positive : 0 < (wordAt bytes 0).toInt) :
    encode ⟨(wordAt bytes 0).toInt.toNat, cols,
      (wordsAt bytes headerSize count).toArray⟩ = bytes := by
  have header : (wordAt bytes 0).toInt = ((wordAt bytes 0).toInt.toNat : Nat) :=
    (Int.toNat_of_nonneg positive.le).symm
  exact encodeMatrix_of_whole header whole

/-- The whole format. A buffer is refused for being short, then for a body that is not whole words,
then for a row count that is not positive or does not divide the words; any other buffer is read
word for word and written back as it was. A request comes back from its bytes when it is whole. -/
theorem exact_codec :
    (∀ bytes : Bytes,
      (bytes.length < 8 →
        decode bytes = .error (.truncated 8 bytes.length)) ∧
      (8 ≤ bytes.length → ¬ 8 ∣ bytes.length - 8 →
        decode bytes = .error (.partialWord (bytes.length - 8))) ∧
      ∀ count, bytes.length = 8 + 8 * count →
        ((wordAt bytes 0).toInt ≤ 0 ∨ ¬ (wordAt bytes 0).toInt ∣ count →
          decode bytes = .error (.invalidRows (wordAt bytes 0))) ∧
        (0 < (wordAt bytes 0).toInt → (wordAt bytes 0).toInt ∣ count →
          ∃ request, decode bytes = .ok request ∧
            (request.rows : Int) = (wordAt bytes 0).toInt ∧
            request.cols = count / request.rows ∧
            request.values.size = count ∧
            (∀ index < count,
              request.values[index]? = some (wordAt bytes (8 + 8 * index))) ∧
            request.encode = bytes)) ∧
    ∀ request : MatrixRequest,
      decode request.encode = .ok request ↔
        0 < request.rows ∧ request.rows < 2 ^ 63 ∧
          request.values.size = request.rows * request.cols := by
  refine ⟨fun bytes => ⟨?_, ?_, ?_⟩, ?_⟩
  · intro short
    rw [decode, splitHeader_of_lt short, error_bind]
    rfl
  · intro long rest
    exact decode_of_partial long rest
  · intro count whole
    have decoded := decode_of_whole whole
    have length := length_wordsAt bytes headerSize count
    refine ⟨?_, ?_⟩
    · intro refused
      rw [decoded, ofWords_of_not_divides (by rwa [length])]
    · intro positive divides
      refine ⟨_, decoded.trans (ofWords_of_divides positive (by rwa [length])), ?_, ?_, ?_, ?_,
        encode_of_whole whole positive⟩
      · exact Int.toNat_of_nonneg positive.le
      · rw [length]
      · rw [List.size_toArray, length]
      · intro index inside
        rw [List.getElem?_toArray, getElem?_wordsAt inside]
        rfl
  · intro request
    rw [decode_encode_iff]
    exact ⟨fun whole => ⟨whole.positive, whole.signed, whole.filled⟩,
      fun ⟨positive, signed, filled⟩ => ⟨positive, signed, filled⟩⟩

/-- Two rows of one column are read and written back; without rows, a body that is not whole words
is refused for its body. -/
theorem exact_codec_two_rows :
    (∃ bytes : Bytes, bytes.length = 8 + 8 * 2 ∧ 0 < (wordAt bytes 0).toInt ∧
      (wordAt bytes 0).toInt ∣ (2 : Nat) ∧
      ∃ request, decode bytes = .ok request ∧ request.rows = 2 ∧ request.cols = 1 ∧
        request.values[1]? = some (-1 : Int64) ∧ request.encode = bytes) ∧
    decode (List.replicate 12 0) = .error (.partialWord 4) := by
  constructor
  · refine ⟨encode ⟨2, 1, #[7, -1]⟩, by decide, by decide +kernel, by decide +kernel, ?_⟩
    have rows : (wordAt (encode ⟨2, 1, #[7, -1]⟩) 0).toInt = 2 := by decide +kernel
    obtain ⟨request, decoded, count, cols, -, values, encoded⟩ :=
      ((exact_codec.1 (encode ⟨2, 1, #[7, -1]⟩)).2.2 2 (by decide)).2
        (by decide +kernel) (by decide +kernel)
    rw [rows] at count
    have two : request.rows = 2 := Int.ofNat_inj.mp count
    have last : wordAt (encode ⟨2, 1, #[7, -1]⟩) (8 + 8 * 1) = -1 := by decide +kernel
    refine ⟨request, decoded, two, ?_, ?_, encoded⟩
    · rw [cols, two]
    · rw [values 1 (by decide), last]
  · exact (exact_codec.1 (List.replicate 12 0)).2.1 (by decide) (by decide)

end MatrixRequest

end ComputeBench
