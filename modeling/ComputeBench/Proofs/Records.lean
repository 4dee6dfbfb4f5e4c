import Mathlib
import ComputeBench.Record

namespace ComputeBench

namespace Record

@[simp] theorem length_encode (record : Record) : record.encode.length = recordSize := by
  rw [encode, List.length_map, Vector.length_toList]

theorem ofBlock_encode (record : Record) : ofBlock record.encode = record := by
  obtain ⟨values⟩ := record
  apply congrArg Record.mk
  apply Vector.ext
  intro lane inside
  have present : lane < values.toList.length := by rwa [Vector.length_toList]
  simp only [Vector.getElem_ofFn, encode, List.getD_eq_getElem?_getD, List.getElem?_map,
    List.getElem?_eq_getElem present, Option.map_some, Option.getD_some]
  rw [Int8.toInt8_toUInt8, Vector.getElem_toList]

theorem encode_ofBlock (block : Bytes) (whole : block.length = recordSize) :
    (ofBlock block).encode = block := by
  apply List.ext_getElem
  · rw [length_encode, whole]
  · intro lane _ inside
    simp [encode, ofBlock, inside]

end Record

theorem length_encodeRecords (records : Array Record) :
    (encodeRecords records).length = recordSize * records.size := by
  rw [encodeRecords, List.length_flatMap, ← Array.length_toList, Nat.mul_comm]
  simp

theorem decodeRecords_encodeRecords (records : Array Record) :
    decodeRecords (encodeRecords records) = .ok records := by
  have length := length_encodeRecords records
  have count : (encodeRecords records).length / recordSize = records.toList.length := by
    rw [length, Nat.mul_div_cancel_left _ recordSize_pos, Array.length_toList]
  rw [decodeRecords, if_pos (by rw [length, Nat.mul_mod_right]), count, encodeRecords,
    map_blocks_flatMap Record.length_encode Record.ofBlock_encode, Array.toArray_toList]

/-- The record at a place: sixteen bytes, each a sample in two's complement. -/
def recordAt (bytes : Bytes) (place : Nat) : Record :=
  ⟨Vector.ofFn fun lane => (bytes.getD (place + lane) 0).toInt8⟩

def recordsAt (bytes : Bytes) (place count : Nat) : Array Record :=
  (Array.range count).map fun index => recordAt bytes (place + recordSize * index)

@[simp] theorem size_recordsAt (bytes : Bytes) (place count : Nat) :
    (recordsAt bytes place count).size = count := by
  simp [recordsAt]

theorem getElem?_recordsAt {bytes : Bytes} {place count index : Nat} (inside : index < count) :
    (recordsAt bytes place count)[index]? =
      some (recordAt bytes (place + recordSize * index)) := by
  simp [recordsAt, inside]

theorem toInt_recordAt (bytes : Bytes) (place : Nat) (lane : Fin recordSize) :
    ((recordAt bytes place).values.get lane).toInt =
      ((bytes.getD (place + lane) 0).toNat : Int).bmod 256 := by
  have sample : (recordAt bytes place).values.get lane =
      (bytes.getD (place + lane) 0).toInt8 := Vector.getElem_ofFn lane.isLt
  rw [sample]
  exact BitVec.toInt_eq_toNat_bmod _

theorem ofBlock_block (bytes : Bytes) (place : Nat) :
    Record.ofBlock ((bytes.drop place).take recordSize) = recordAt bytes place := by
  apply congrArg Record.mk
  apply Vector.ext
  intro lane inside
  simp [List.getD_eq_getElem?_getD]

theorem map_blocks_ofBlock (bytes : Bytes) (place count : Nat) :
    ((blocks recordSize count (bytes.drop place)).map Record.ofBlock).toArray =
      recordsAt bytes place count := by
  apply Array.ext_getElem?
  intro index
  rcases lt_or_ge index count with inside | past
  · rw [List.getElem?_toArray, List.getElem?_map, getElem?_blocks _ inside, Option.map_some,
      List.drop_drop, ofBlock_block, getElem?_recordsAt inside]
  · simp [past]

theorem encodeRecords_recordsAt {bytes : Bytes} {place count : Nat}
    (whole : bytes.length = place + recordSize * count) :
    encodeRecords (recordsAt bytes place count) = bytes.drop place := by
  have body : (bytes.drop place).length = recordSize * count := by
    rw [List.length_drop, whole, Nat.add_sub_cancel_left]
  rw [← map_blocks_ofBlock, encodeRecords, flatMap_map_blocks body Record.encode_ofBlock]

theorem decodeRecords_of_partial {bytes : Bytes} (rest : ¬ recordSize ∣ bytes.length) :
    decodeRecords bytes = .error (.partialRecord bytes.length) :=
  if_neg (mt Nat.dvd_of_mod_eq_zero rest)

theorem decodeRecords_drop {bytes : Bytes} {place count : Nat}
    (whole : bytes.length = place + recordSize * count) :
    decodeRecords (bytes.drop place) = .ok (recordsAt bytes place count) := by
  have body : (bytes.drop place).length = recordSize * count := by
    rw [List.length_drop, whole, Nat.add_sub_cancel_left]
  have count_eq : (bytes.drop place).length / recordSize = count := by
    rw [body, Nat.mul_div_cancel_left count recordSize_pos]
  rw [decodeRecords, if_pos (by rw [body, Nat.mul_mod_right]), count_eq, map_blocks_ofBlock]

end ComputeBench
