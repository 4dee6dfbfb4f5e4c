import Mathlib
import ComputeBench.Proofs.Records
import ComputeBench.Proofs.Records.Sum

namespace ComputeBench

theorem encodeRecords_append (first second : Array Record) :
    encodeRecords (first ++ second) = encodeRecords first ++ encodeRecords second := by
  rw [encodeRecords, Array.toList_append, List.flatMap_append, encodeRecords, encodeRecords]

variable {bytes : Bytes} {records : Array Record}

theorem view_of_whole {count : Nat} (whole : bytes.length = recordSize * count) :
    decodeRecords bytes = .ok (recordsAt bytes 0 count) ∧
      encodeRecords (recordsAt bytes 0 count) = bytes := by
  have fromStart : bytes.length = 0 + recordSize * count := by rw [whole, Nat.zero_add]
  exact ⟨decodeRecords_drop fromStart, encodeRecords_recordsAt fromStart⟩

theorem decodeRecords_eq_ok_iff :
    decodeRecords bytes = .ok records ↔ encodeRecords records = bytes := by
  constructor
  · intro accepted
    by_cases whole : recordSize ∣ bytes.length
    · obtain ⟨count, length⟩ := whole
      obtain ⟨read, written⟩ := view_of_whole length
      cases read.symm.trans accepted
      exact written
    · rw [decodeRecords_of_partial whole] at accepted
      cases accepted
  · rintro rfl
    exact decodeRecords_encodeRecords records

theorem length_of_decodeRecords (accepted : decodeRecords bytes = .ok records) :
    bytes.length = recordSize * records.size := by
  rw [← decodeRecords_eq_ok_iff.mp accepted, length_encodeRecords]

theorem exists_decodeRecords_iff :
    (∃ records, decodeRecords bytes = .ok records) ↔ recordSize ∣ bytes.length := by
  constructor
  · rintro ⟨records, accepted⟩
    exact ⟨records.size, length_of_decodeRecords accepted⟩
  · rintro ⟨count, whole⟩
    exact ⟨_, (view_of_whole whole).1⟩

theorem decodeRecords_append {first second : Bytes} {before after : Array Record}
    (read : decodeRecords first = .ok before) (readNext : decodeRecords second = .ok after) :
    decodeRecords (first ++ second) = .ok (before ++ after) := by
  rw [decodeRecords_eq_ok_iff] at read readNext ⊢
  rw [encodeRecords_append, read, readNext]

theorem sample_of_decodeRecords (accepted : decodeRecords bytes = .ok records) {index : Nat}
    (inside : index < records.size) :
    ∃ record, records[index]? = some record ∧
      ∀ lane : Fin recordSize, (record.values.get lane).toInt =
        ((bytes.getD (recordSize * index + lane) 0).toNat : Int).bmod 256 := by
  have read := (view_of_whole (length_of_decodeRecords accepted)).1
  have view : recordsAt bytes 0 records.size = records :=
    Except.ok.inj (read.symm.trans accepted)
  have present : (recordsAt bytes 0 records.size)[index]? =
      some (recordAt bytes (0 + recordSize * index)) := getElem?_recordsAt inside
  rw [view, Nat.zero_add] at present
  exact ⟨_, present, toInt_recordAt bytes _⟩

/-- Buffers of whole records and lists of records are in bijection, byte for sample; every other
buffer is refused. What is written after another buffer is read after it, and the records sum up to
what their bytes sum up to. -/
theorem records_bytes_bijection :
    (∀ bytes : Bytes,
      ((∃ records, decodeRecords bytes = .ok records) ↔ 16 ∣ bytes.length) ∧
      (¬ 16 ∣ bytes.length → decodeRecords bytes = .error (.partialRecord bytes.length)) ∧
      ∀ records, decodeRecords bytes = .ok records →
        records.size = bytes.length / 16 ∧
        (∀ index < records.size, ∃ record, records[index]? = some record ∧
          ∀ lane : Fin recordSize, (record.values.get lane).toInt =
            ((bytes.getD (16 * index + lane) 0).toNat : Int).bmod 256) ∧
        encodeRecords records = bytes ∧
        (records.toList.map fun record => record.sum.toInt).sum =
          (bytes.map fun byte => (byte.toNat : Int).bmod 256).sum) ∧
    (∀ records : Array Record, decodeRecords (encodeRecords records) = .ok records) ∧
    ∀ first second : Bytes, 16 ∣ first.length → 16 ∣ second.length →
      ∃ before after, decodeRecords first = .ok before ∧ decodeRecords second = .ok after ∧
        decodeRecords (first ++ second) = .ok (before ++ after) := by
  refine ⟨fun bytes => ⟨exists_decodeRecords_iff, decodeRecords_of_partial, ?_⟩,
    decodeRecords_encodeRecords, ?_⟩
  · intro records accepted
    have written := decodeRecords_eq_ok_iff.mp accepted
    refine ⟨?_, fun index inside => sample_of_decodeRecords accepted inside, written, ?_⟩
    · rw [length_of_decodeRecords accepted]
      exact (Nat.mul_div_cancel_left _ recordSize_pos).symm
    · rw [← written, sum_bmod_encodeRecords]
  · intro first second whole wholeNext
    obtain ⟨before, read⟩ := exists_decodeRecords_iff.mpr whole
    obtain ⟨after, readNext⟩ := exists_decodeRecords_iff.mpr wholeNext
    exact ⟨before, after, read, readNext, decodeRecords_append read readNext⟩

/-- The byte 128 is read as -128 in the second of two records, 255 and 127 as -1 and 127 around it.
Twenty bytes are no whole records. -/
theorem records_bytes_bijection_two :
    (∃ (records : Array Record) (record : Record), decodeRecords
        ([255] ++ List.replicate 16 0 ++ [128] ++ List.replicate 13 0 ++ [127]) = .ok records ∧
      records.size = 2 ∧ records[1]? = some record ∧
      (record.values.get ⟨1, by decide⟩).toInt = -128 ∧
      (records.toList.map fun record => record.sum.toInt).sum = -2) ∧
    decodeRecords (List.replicate 20 0) = .error (.partialRecord 20) ∧
    ∃ before after, decodeRecords (List.replicate 16 1) = .ok before ∧
      decodeRecords (List.replicate 32 2) = .ok after ∧
      decodeRecords (List.replicate 16 1 ++ List.replicate 32 2) = .ok (before ++ after) := by
  obtain ⟨views, -, appended⟩ := records_bytes_bijection
  obtain ⟨accepts, -, view⟩ :=
    views ([255] ++ List.replicate 16 0 ++ [128] ++ List.replicate 13 0 ++ [127])
  refine ⟨?_, (views (List.replicate 20 0)).2.1 (by decide),
    appended (List.replicate 16 1) (List.replicate 32 2) (by decide) (by decide)⟩
  obtain ⟨records, accepted⟩ := accepts.mpr (by decide)
  obtain ⟨size, samples, -, sums⟩ := view records accepted
  have two : records.size = 2 := size.trans (by decide)
  obtain ⟨record, present, lanes⟩ := samples 1 (by rw [two]; decide)
  exact ⟨records, record, accepted, two, present, (lanes ⟨1, by decide⟩).trans (by decide),
    sums.trans (by decide)⟩

end ComputeBench
