import Mathlib
import ComputeBench.Record

namespace ComputeBench

theorem toInt_sum (words : List Int64) :
    words.sum.toInt = (words.map Int64.toInt).sum.bmod (2 ^ 64) := by
  induction words with
  | nil => rfl
  | cons word rest ih =>
      rw [List.sum_cons, Int64.toInt_add, ih, Int.add_bmod_bmod, List.map_cons, List.sum_cons]

theorem sum_between {values : List Int} {low high : Int}
    (bounded : ∀ value ∈ values, low ≤ value ∧ value ≤ high) :
    values.length * low ≤ values.sum ∧ values.sum ≤ values.length * high := by
  have lower := List.card_nsmul_le_sum values low fun value member => (bounded value member).1
  have upper := List.sum_le_card_nsmul values high fun value member => (bounded value member).2
  rw [nsmul_eq_mul] at lower upper
  exact ⟨lower, upper⟩

namespace Record

theorem bounds_of_mem {record : Record} {sample : Int}
    (member : sample ∈ record.values.toList.map Int8.toInt) : -128 ≤ sample ∧ sample ≤ 127 := by
  obtain ⟨value, -, rfl⟩ := List.mem_map.mp member
  exact ⟨value.le_toInt, Int.le_of_lt_add_one value.toInt_lt⟩

variable (record : Record)

theorem map_toInt_samples :
    record.samples.map Int64.toInt = record.values.toList.map Int8.toInt := by
  rw [samples, List.map_map]
  exact List.map_congr_left fun value _ => Int8.toInt_toInt64 value

theorem exact_sum_bounds :
    -2048 ≤ (record.values.toList.map Int8.toInt).sum ∧
      (record.values.toList.map Int8.toInt).sum ≤ 2032 := by
  have length : (record.values.toList.map Int8.toInt).length = 16 := by
    rw [List.length_map, Vector.length_toList]
    rfl
  have bounded : ∀ sample ∈ record.values.toList.map Int8.toInt,
      -128 ≤ sample ∧ sample ≤ 127 := fun _ member => bounds_of_mem member
  obtain ⟨lower, upper⟩ := sum_between bounded
  rw [length] at lower upper
  exact ⟨lower, upper⟩

theorem toInt_sum_eq : record.sum.toInt = (record.values.toList.map Int8.toInt).sum := by
  obtain ⟨lower, upper⟩ := record.exact_sum_bounds
  rw [sum, toInt_sum, map_toInt_samples]
  apply Int.bmod_eq_of_le_mul_two <;> omega

theorem sum_bounds : -2048 ≤ record.sum.toInt ∧ record.sum.toInt ≤ 2032 := by
  rw [toInt_sum_eq]
  exact record.exact_sum_bounds

theorem map_bmod_encode :
    record.encode.map (fun byte => (byte.toNat : Int).bmod 256) =
      record.values.toList.map Int8.toInt := by
  rw [encode, List.map_map]
  apply List.map_congr_left
  intro value _
  have signed : value.toInt = (value.toUInt8.toNat : Int).bmod 256 :=
    BitVec.toInt_eq_toNat_bmod value.toBitVec
  rw [Function.comp_apply, signed]

end Record

theorem sum_bmod_encodeRecords (records : Array Record) :
    ((encodeRecords records).map fun byte => (byte.toNat : Int).bmod 256).sum =
      (records.toList.map fun record => record.sum.toInt).sum := by
  rw [encodeRecords, List.map_flatMap, List.flatMap_def, List.sum_flatten, List.map_map]
  congr 1
  apply List.map_congr_left
  intro record _
  rw [Function.comp_apply, Record.map_bmod_encode, Record.toInt_sum_eq]

end ComputeBench
