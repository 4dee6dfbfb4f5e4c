import Mathlib
import ComputeBench.Message.MatrixResponse
import ComputeBench.Proofs.Message.MatrixRequest

namespace ComputeBench.MatrixResponse

variable {bytes : Bytes} {response : MatrixResponse}

def ofWords (rows : Nat) (values : List Int64) : Except Error MatrixResponse :=
  if addressSpace ≤ rows * rows then .error .dimensionOverflow
  else if values.length ≠ rows * rows then
    .error (.lengthMismatch .matrixResponse (rows * rows) values.length)
  else .ok ⟨rows, values.toArray⟩

theorem ofWords_of_past {rows : Nat} (past : addressSpace ≤ rows * rows)
    (values : List Int64) : ofWords rows values = .error .dimensionOverflow :=
  if_pos past

theorem ofWords_of_mismatch {rows : Nat} {values : List Int64}
    (bounded : rows * rows < addressSpace) (mismatch : values.length ≠ rows * rows) :
    ofWords rows values =
      .error (.lengthMismatch .matrixResponse (rows * rows) values.length) := by
  rw [ofWords, if_neg (not_le.mpr bounded), if_pos mismatch]

theorem ofWords_of_square {rows : Nat} {values : List Int64}
    (bounded : rows * rows < addressSpace) (square : values.length = rows * rows) :
    ofWords rows values = .ok ⟨rows, values.toArray⟩ := by
  rw [ofWords, if_neg (not_le.mpr bounded), if_neg (not_not_intro square)]

theorem ofWords_eq_checks (rows : Nat) (values : List Int64) :
    ofWords rows values = do
      let entries ← checkedLength rows rows
      requireLength .matrixResponse entries values.length
      return ⟨rows, values.toArray⟩ := by
  by_cases past : addressSpace ≤ rows * rows
  · rw [ofWords_of_past past, checkedLength, if_neg (not_lt.mpr past)]
    rfl
  · have bounded := not_le.mp past
    rw [checkedLength, if_pos bounded, ok_bind]
    by_cases square : values.length = rows * rows
    · rw [ofWords_of_square bounded square, requireLength, if_pos square.symm]
      rfl
    · rw [ofWords_of_mismatch bounded square, requireLength, if_neg (Ne.symm square)]
      rfl

theorem decode_of_split {header body : Bytes} (split : splitHeader bytes = .ok (header, body)) :
    decode bytes =
      if decodeSigned header < 0 then .error (.invalidRows (decodeSigned header))
      else decodeWords body >>= ofWords (decodeSigned header).toInt.toNat := by
  rw [decode, split, ok_bind]
  by_cases negative : decodeSigned header < 0
  · simp only [if_pos negative]
    rfl
  · simp only [if_neg negative]
    refine bind_congr fun values => ?_
    exact (ofWords_eq_checks _ values).symm

theorem decode_of_negative (long : headerSize ≤ bytes.length)
    (negative : (wordAt bytes 0).toInt < 0) :
    decode bytes = .error (.invalidRows (wordAt bytes 0)) := by
  rw [decode_of_split (splitHeader_of_le long), decodeSigned_header long]
  exact if_pos (Int64.lt_iff_toInt_lt.mpr negative)

theorem decode_of_nonneg (long : headerSize ≤ bytes.length)
    (nonneg : 0 ≤ (wordAt bytes 0).toInt) :
    decode bytes =
      decodeWords (bytes.drop headerSize) >>= ofWords (wordAt bytes 0).toInt.toNat := by
  have passed : ¬ wordAt bytes 0 < 0 := mt Int64.lt_iff_toInt_lt.mp (not_lt.mpr nonneg)
  rw [decode_of_split (splitHeader_of_le long), decodeSigned_header long]
  exact if_neg passed

theorem decode_of_partial (long : headerSize ≤ bytes.length)
    (nonneg : 0 ≤ (wordAt bytes 0).toInt) (rest : ¬ wordSize ∣ bytes.length - headerSize) :
    decode bytes = .error (.partialWord (bytes.length - headerSize)) := by
  rw [← List.length_drop] at rest ⊢
  rw [decode_of_nonneg long nonneg, decodeWords_of_partial rest, error_bind]

theorem decode_of_whole {rows count : Nat} (header : (wordAt bytes 0).toInt = rows)
    (whole : bytes.length = headerSize + wordSize * count) :
    decode bytes = ofWords rows (wordsAt bytes headerSize count) := by
  have long : headerSize ≤ bytes.length := by omega
  have nonneg : 0 ≤ (wordAt bytes 0).toInt := header ▸ Int.natCast_nonneg rows
  have body : (bytes.drop headerSize).length = wordSize * count := by
    rw [List.length_drop, whole, Nat.add_sub_cancel_left]
  rw [decode_of_nonneg long nonneg, decodeWords_of_whole body, ok_bind,
    map_blocks_decodeSigned whole, header, Int.toNat_natCast]

structure Whole (response : MatrixResponse) : Prop where
  bounded : response.rows * response.rows < addressSpace
  square : response.values.size = response.rows * response.rows

theorem Whole.signed (whole : response.Whole) : response.rows < 2 ^ 63 := by
  by_contra large
  have square := Nat.mul_le_mul (not_lt.mp large) (not_lt.mp large)
  exact absurd (square.trans_lt whole.bounded) (by decide)

theorem Whole.decode_encode (whole : response.Whole) :
    decode (encodeMatrix response.rows response.values) = .ok response := by
  have header : (Int64.ofNat response.rows).toInt = response.rows :=
    Int64.toInt_ofNat_of_lt whole.signed
  have nonneg : ¬ Int64.ofNat response.rows < 0 := by
    rw [Int64.lt_iff_toInt_lt, header]
    exact not_lt.mpr (Int.natCast_nonneg _)
  have filled : response.values.toList.length = response.rows * response.rows := by
    rw [Array.length_toList, whole.square]
  rw [decode_of_split (splitHeader_encodeMatrix _ _), decodeSigned_encodeSigned, if_neg nonneg,
    decodeWords_encodeWords, ok_bind, header, Int.toNat_natCast,
    ofWords_of_square whole.bounded filled, Array.toArray_toList]

theorem whole_of_ofWords {rows : Nat} {values : List Int64}
    (accepted : ofWords rows values = .ok response) :
    response.Whole ∧ response = ⟨rows, values.toArray⟩ := by
  by_cases past : addressSpace ≤ rows * rows
  · rw [ofWords_of_past past] at accepted
    cases accepted
  · have bounded := not_le.mp past
    by_cases square : values.length = rows * rows
    · rw [ofWords_of_square bounded square] at accepted
      cases accepted
      exact ⟨⟨bounded, square⟩, rfl⟩
    · rw [ofWords_of_mismatch bounded square] at accepted
      cases accepted

theorem exists_words_of_decode (accepted : decode bytes = .ok response) :
    ∃ rows count : Nat, (wordAt bytes 0).toInt = rows ∧
      bytes.length = headerSize + wordSize * count := by
  by_cases long : headerSize ≤ bytes.length
  · rcases lt_or_ge (wordAt bytes 0).toInt 0 with negative | nonneg
    · rw [decode_of_negative long negative] at accepted
      cases accepted
    · obtain ⟨rows, header⟩ := Int.eq_ofNat_of_zero_le nonneg
      by_cases divides : wordSize ∣ bytes.length - headerSize
      · obtain ⟨count, exact⟩ := divides
        exact ⟨rows, count, header, by omega⟩
      · rw [decode_of_partial long nonneg divides] at accepted
        cases accepted
  · rw [decode, splitHeader_of_lt (not_le.mp long), error_bind] at accepted
    cases accepted

theorem decode_eq_ok_iff :
    decode bytes = .ok response ↔
      response.Whole ∧ encodeMatrix response.rows response.values = bytes := by
  constructor
  · intro accepted
    obtain ⟨rows, count, header, whole⟩ := exists_words_of_decode accepted
    rw [decode_of_whole header whole] at accepted
    obtain ⟨filled, rfl⟩ := whole_of_ofWords accepted
    exact ⟨filled, encodeMatrix_of_whole header whole⟩
  · rintro ⟨whole, rfl⟩
    exact whole.decode_encode

theorem length_of_decode (accepted : decode bytes = .ok response) :
    bytes.length = 8 * (response.rows * response.rows + 1) := by
  obtain ⟨whole, rfl⟩ := decode_eq_ok_iff.mp accepted
  rw [length_encodeMatrix, whole.square, wordSize]
  ring

theorem rows_of_decode (accepted : decode bytes = .ok response) :
    (wordAt bytes 0).toInt = response.rows := by
  obtain ⟨whole, rfl⟩ := decode_eq_ok_iff.mp accepted
  exact toInt_wordAt_encodeMatrix whole.signed response.values

/-- Of two accepted buffers, one of which begins the other, both name the same row count. -/
theorem eq_of_prefix {longer : Bytes} {other : MatrixResponse}
    (accepted : decode bytes = .ok response) (continued : decode longer = .ok other)
    (begins : bytes <+: longer) : bytes = longer := by
  have header := rows_of_decode accepted
  have long : headerSize ≤ bytes.length := by
    rw [length_of_decode accepted, headerSize, wordSize]
    omega
  obtain ⟨rest, rfl⟩ := begins
  have rows : response.rows = other.rows := by
    have opened := rows_of_decode continued
    rw [wordAt_zero_append long, header] at opened
    exact Int.ofNat_inj.mp opened
  have length : bytes.length = (bytes ++ rest).length := by
    rw [length_of_decode accepted, length_of_decode continued, rows]
  exact (List.prefix_append bytes rest).eq_of_length length

/-- The whole format. A buffer is refused for being short, then for a negative row count, then for a
body that is not whole words, then for a row count whose square has no address, then for words that
do not fill the square; any other buffer is read word for word and written back as it was. So an
accepted buffer is as long as its row count says, and none begins another. -/
theorem decode_self_delimiting :
    (∀ bytes : Bytes,
      (bytes.length < 8 → decode bytes = .error (.truncated 8 bytes.length)) ∧
      (8 ≤ bytes.length → (wordAt bytes 0).toInt < 0 →
        decode bytes = .error (.invalidRows (wordAt bytes 0))) ∧
      (8 ≤ bytes.length → 0 ≤ (wordAt bytes 0).toInt → ¬ 8 ∣ bytes.length - 8 →
        decode bytes = .error (.partialWord (bytes.length - 8))) ∧
      ∀ rows count : Nat, (wordAt bytes 0).toInt = rows → bytes.length = 8 + 8 * count →
        (addressSpace ≤ rows * rows → decode bytes = .error .dimensionOverflow) ∧
        (rows * rows < addressSpace → count ≠ rows * rows →
          decode bytes = .error (.lengthMismatch .matrixResponse (rows * rows) count)) ∧
        (rows * rows < addressSpace → count = rows * rows →
          ∃ values : Array Int64, decode bytes = .ok ⟨rows, values⟩ ∧
            values.size = count ∧
            (∀ index < count, values[index]? = some (wordAt bytes (8 + 8 * index))) ∧
            encodeMatrix rows values = bytes)) ∧
    (∀ (bytes : Bytes) (response : MatrixResponse), decode bytes = .ok response →
      bytes.length = 8 * (response.rows * response.rows + 1)) ∧
    ∀ (bytes longer : Bytes) (response other : MatrixResponse),
      decode bytes = .ok response → decode longer = .ok other → bytes <+: longer →
        bytes = longer := by
  refine ⟨fun bytes => ⟨?_, ?_, ?_, ?_⟩, ?_, ?_⟩
  · intro short
    rw [decode, splitHeader_of_lt short, error_bind]
    rfl
  · exact decode_of_negative
  · exact decode_of_partial
  · intro rows count header whole
    have decoded := decode_of_whole header whole
    have length := length_wordsAt bytes headerSize count
    refine ⟨?_, ?_, ?_⟩
    · intro past
      rw [decoded, ofWords_of_past past]
    · intro bounded mismatch
      rw [decoded, ofWords_of_mismatch bounded (by rwa [length]), length]
    · intro bounded square
      refine ⟨_, decoded.trans (ofWords_of_square bounded (by rwa [length])), ?_, ?_,
        encodeMatrix_of_whole header whole⟩
      · rw [List.size_toArray, length]
      · intro index inside
        rw [List.getElem?_toArray, getElem?_wordsAt inside]
        rfl
  · exact fun bytes response accepted => length_of_decode accepted
  · exact fun bytes longer response other accepted continued begins =>
      eq_of_prefix accepted continued begins

/-- The count -1 is refused before the three bytes behind it, and 2 ^ 32 before its missing words;
the shortest response has no rows, and no other begins with it. -/
theorem decode_self_delimiting_boundaries :
    decode (List.replicate 11 255) = .error (.invalidRows (-1)) ∧
      decode [0, 0, 0, 0, 1, 0, 0, 0] = .error .dimensionOverflow ∧
      decode (encodeMatrix 2 #[1, 2, 3]) = .error (.lengthMismatch .matrixResponse 4 3) ∧
      (∃ values, decode (encodeMatrix 2 #[5, 11, 11, 25]) = .ok ⟨2, values⟩ ∧
        values[3]? = some 25) ∧
      decode (List.replicate 8 0) = .ok ⟨0, #[]⟩ ∧
      ∀ (longer : Bytes) (other : MatrixResponse), decode longer = .ok other →
        List.replicate 8 0 <+: longer → List.replicate 8 0 = longer := by
  obtain ⟨outcomes, -, separate⟩ := decode_self_delimiting
  have negative : wordAt (List.replicate 11 255) 0 = -1 := by decide +kernel
  have great : (wordAt [0, 0, 0, 0, 1, 0, 0, 0] 0).toInt = (2 ^ 32 : Nat) := by decide +kernel
  have three : (wordAt (encodeMatrix 2 #[1, 2, 3]) 0).toInt = (2 : Nat) := by decide +kernel
  have four : (wordAt (encodeMatrix 2 #[5, 11, 11, 25]) 0).toInt = (2 : Nat) := by
    decide +kernel
  have last : wordAt (encodeMatrix 2 #[5, 11, 11, 25]) (8 + 8 * 3) = 25 := by decide +kernel
  have empty : decode (List.replicate 8 0) = .ok ⟨0, #[]⟩ := by decide +kernel
  refine ⟨?_, ?_, ?_, ?_, empty, ?_⟩
  · have refused := (outcomes (List.replicate 11 255)).2.1 (by decide) (by rw [negative]; decide)
    rwa [negative] at refused
  · exact ((outcomes [0, 0, 0, 0, 1, 0, 0, 0]).2.2.2 (2 ^ 32) 0 great (by decide)).1 (by decide)
  · exact ((outcomes (encodeMatrix 2 #[1, 2, 3])).2.2.2 2 3 three (by decide)).2.1
      (by decide) (by decide)
  · obtain ⟨values, decoded, -, entries, -⟩ :=
      ((outcomes (encodeMatrix 2 #[5, 11, 11, 25])).2.2.2 2 4 four (by decide)).2.2
        (by decide) (by decide)
    exact ⟨values, decoded, by rw [entries 3 (by decide), last]⟩
  · exact fun longer other continued begins => separate _ _ _ _ empty continued begins

end ComputeBench.MatrixResponse
