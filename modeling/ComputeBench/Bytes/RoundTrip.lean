import Mathlib
import ComputeBench.Bytes.BigEndian
import ComputeBench.Bytes.Word

namespace ComputeBench

namespace LittleEndian

theorem decode_encode (width value : Nat) :
    decode (encode width value) = value % 256 ^ width := by
  induction width generalizing value with
  | zero => simp [encode, decode, Nat.mod_one]
  | succ width ih =>
      have low : (UInt8.ofNat value).toNat = value % 256 := UInt8.toNat_ofNat'
      rw [encode, decode, ih, low, Nat.pow_succ', Nat.mod_mul]

theorem decode_lt (bytes : Bytes) : decode bytes < 256 ^ bytes.length := by
  induction bytes with
  | nil => simp [decode]
  | cons byte rest ih =>
      have low := byte.toNat_lt
      rw [decode, List.length_cons, Nat.pow_succ]
      omega

theorem encode_decode (bytes : Bytes) :
    encode bytes.length (decode bytes) = bytes := by
  induction bytes with
  | nil => rfl
  | cons byte rest ih =>
      have low := byte.toNat_lt
      have tail : (byte.toNat + 256 * decode rest) / 256 = decode rest := by omega
      have head : UInt8.ofNat (byte.toNat + 256 * decode rest) = byte := by
        apply UInt8.toNat_inj.mp
        rw [UInt8.toNat_ofNat']
        omega
      rw [List.length_cons, decode, encode, tail, head, ih]

end LittleEndian

namespace BigEndian

theorem decode_encode (width value : Nat) :
    decode (encode width value) = value % 256 ^ width := by
  rw [decode, encode, List.reverse_reverse, LittleEndian.decode_encode]

theorem exists_four_bytes {value : Nat} (fits : value < 256 ^ 4) :
    ∃ first second third fourth, encode 4 value = [first, second, third, fourth] ∧
      decode [first, second, third, fourth] = value := by
  have back : decode (encode 4 value) = value := by
    rw [decode_encode, Nat.mod_eq_of_lt fits]
  exact ⟨_, _, _, _, rfl, back⟩

end BigEndian

theorem decodeUnsigned_encodeUnsigned (value : UInt64) :
    decodeUnsigned (encodeUnsigned value) = value := by
  have bound := value.toNat_lt
  apply UInt64.toNat_inj.mp
  rw [decodeUnsigned, encodeUnsigned, LittleEndian.decode_encode, UInt64.toNat_ofNat']
  simp only [wordSize]
  omega

theorem toNat_decodeUnsigned (bytes : Bytes) (whole : bytes.length = wordSize) :
    (decodeUnsigned bytes).toNat = LittleEndian.decode bytes := by
  have bound := LittleEndian.decode_lt bytes
  rw [whole] at bound
  rw [decodeUnsigned, UInt64.toNat_ofNat']
  exact Nat.mod_eq_of_lt bound

theorem encodeUnsigned_decodeUnsigned (bytes : Bytes)
    (whole : bytes.length = wordSize) :
    encodeUnsigned (decodeUnsigned bytes) = bytes := by
  rw [encodeUnsigned, toNat_decodeUnsigned bytes whole, ← whole,
    LittleEndian.encode_decode]

theorem decodeSigned_encodeSigned (value : Int64) :
    decodeSigned (encodeSigned value) = value := by
  rw [decodeSigned, encodeSigned, decodeUnsigned_encodeUnsigned]
  exact Int64.toInt64_toUInt64 value

theorem encodeSigned_decodeSigned (bytes : Bytes)
    (whole : bytes.length = wordSize) :
    encodeSigned (decodeSigned bytes) = bytes := by
  rw [encodeSigned, decodeSigned, UInt64.toUInt64_toInt64,
    encodeUnsigned_decodeUnsigned bytes whole]

end ComputeBench
