import Mathlib
import ComputeBench.Bytes.RoundTrip
import ComputeBench.Message.Header

namespace ComputeBench

theorem LittleEndian.decode_eq_sum (bytes : Bytes) :
    decode bytes =
      ∑ place ∈ Finset.range bytes.length, (bytes.getD place 0).toNat * 256 ^ place := by
  induction bytes with
  | nil => rfl
  | cons byte rest ih =>
      rw [decode, ih, List.length_cons, Finset.sum_range_succ', Nat.add_comm, Finset.mul_sum]
      congr 1
      · apply Finset.sum_congr rfl
        intro place _
        rw [List.getD_cons_succ, pow_succ]
        ring
      · simp

/-- The signed word at a place: eight bytes by weight, least first, in two's complement. -/
def wordAt (bytes : Bytes) (place : Nat) : Int64 :=
  .ofNat (∑ offset ∈ Finset.range wordSize,
    (bytes.getD (place + offset) 0).toNat * 256 ^ offset)

def wordsAt (bytes : Bytes) (place count : Nat) : List Int64 :=
  (List.range count).map fun index => wordAt bytes (place + wordSize * index)

@[simp] theorem length_wordsAt (bytes : Bytes) (place count : Nat) :
    (wordsAt bytes place count).length = count := by
  rw [wordsAt, List.length_map, List.length_range]

theorem getElem?_wordsAt {bytes : Bytes} {place count index : Nat} (inside : index < count) :
    (wordsAt bytes place count)[index]? = some (wordAt bytes (place + wordSize * index)) := by
  rw [wordsAt, List.getElem?_map, List.getElem?_range inside, Option.map_some]

theorem decodeSigned_block {bytes : Bytes} {place : Nat}
    (inside : place + wordSize ≤ bytes.length) :
    decodeSigned ((bytes.drop place).take wordSize) = wordAt bytes place := by
  have length : ((bytes.drop place).take wordSize).length = wordSize := by
    rw [List.length_take, List.length_drop]
    omega
  have word : decodeSigned ((bytes.drop place).take wordSize) =
      .ofNat (LittleEndian.decode ((bytes.drop place).take wordSize)) := rfl
  rw [word, LittleEndian.decode_eq_sum, length, wordAt]
  congr 1
  apply Finset.sum_congr rfl
  intro offset member
  rw [List.getD_eq_getElem?_getD, List.getD_eq_getElem?_getD,
    List.getElem?_take_of_lt (Finset.mem_range.mp member), List.getElem?_drop]

theorem decodeSigned_header {bytes : Bytes} (long : headerSize ≤ bytes.length) :
    decodeSigned (bytes.take headerSize) = wordAt bytes 0 := by
  have inside : 0 + wordSize ≤ bytes.length := by rwa [Nat.zero_add]
  exact decodeSigned_block inside

theorem encodeSigned_wordAt {bytes : Bytes} (long : headerSize ≤ bytes.length) :
    encodeSigned (wordAt bytes 0) = bytes.take headerSize := by
  have whole : (bytes.take headerSize).length = wordSize := List.length_take_of_le long
  rw [← decodeSigned_header long, encodeSigned_decodeSigned _ whole]

theorem wordAt_header (header : Int64) (body : Bytes) :
    wordAt (encodeSigned header ++ body) 0 = header := by
  have long : headerSize ≤ (encodeSigned header ++ body).length := by
    rw [List.length_append, length_encodeSigned]
    exact Nat.le_add_right _ _
  have front : (encodeSigned header ++ body).take headerSize = encodeSigned header :=
    List.take_left' (length_encodeSigned header)
  rw [← decodeSigned_header long, front, decodeSigned_encodeSigned]

theorem wordAt_zero_append {bytes : Bytes} (long : headerSize ≤ bytes.length) (rest : Bytes) :
    wordAt (bytes ++ rest) 0 = wordAt bytes 0 := by
  have longer : headerSize ≤ (bytes ++ rest).length := by
    rw [List.length_append]
    exact long.trans (Nat.le_add_right _ _)
  rw [← decodeSigned_header longer, ← decodeSigned_header long,
    List.take_append_of_le_length long]

theorem decodeWords_of_partial {body : Bytes} (rest : ¬ wordSize ∣ body.length) :
    decodeWords body = .error (.partialWord body.length) :=
  if_neg (mt Nat.dvd_of_mod_eq_zero rest)

theorem decodeWords_of_whole {body : Bytes} {count : Nat}
    (whole : body.length = wordSize * count) :
    decodeWords body = .ok ((blocks wordSize count body).map decodeSigned) := by
  have count_eq : body.length / wordSize = count := by
    rw [whole]
    exact Nat.mul_div_cancel_left count (by decide)
  rw [decodeWords, if_pos (by rw [whole, Nat.mul_mod_right]), count_eq]

theorem length_encodeWords (values : List Int64) :
    (encodeWords values).length = wordSize * values.length := by
  rw [encodeWords, List.length_flatMap, Nat.mul_comm]
  simp

theorem decodeWords_encodeWords (values : List Int64) :
    decodeWords (encodeWords values) = .ok values := by
  rw [decodeWords_of_whole (length_encodeWords values), encodeWords,
    map_blocks_flatMap length_encodeSigned decodeSigned_encodeSigned]

theorem map_blocks_decodeSigned {bytes : Bytes} {place count : Nat}
    (whole : bytes.length = place + wordSize * count) :
    (blocks wordSize count (bytes.drop place)).map decodeSigned =
      wordsAt bytes place count := by
  apply List.ext_getElem?
  intro index
  by_cases inside : index < count
  · have fits : place + wordSize * index + wordSize ≤ bytes.length := by
      rw [whole, Nat.add_assoc, ← Nat.mul_succ]
      exact Nat.add_le_add_left (Nat.mul_le_mul_left _ inside) _
    rw [List.getElem?_map, getElem?_blocks _ inside, Option.map_some, List.drop_drop,
      decodeSigned_block fits, getElem?_wordsAt inside]
  · have past := not_lt.mp inside
    rw [List.getElem?_eq_none, List.getElem?_eq_none]
    · rwa [length_wordsAt]
    · rwa [List.length_map, length_blocks]

theorem encodeWords_wordsAt {bytes : Bytes} {place count : Nat}
    (whole : bytes.length = place + wordSize * count) :
    encodeWords (wordsAt bytes place count) = bytes.drop place := by
  have body : (bytes.drop place).length = wordSize * count := by
    rw [List.length_drop, whole, Nat.add_sub_cancel_left]
  rw [← map_blocks_decodeSigned whole, encodeWords,
    flatMap_map_blocks body encodeSigned_decodeSigned]

end ComputeBench
