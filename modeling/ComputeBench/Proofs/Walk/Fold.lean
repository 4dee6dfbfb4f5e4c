import Mathlib
import ComputeBench.Proofs.Walk.Jump
import ComputeBench.Proofs.Walk.Summary

namespace ComputeBench.Tally

variable (tally : Tally)

theorem sum_addRecord (record : Record) :
    (tally.addRecord record).sum = tally.sum + record.sum :=
  sum_foldl_add record.samples tally

theorem isLeast_addRecord (record : Record) :
    IsLeast {value | value ∈ tally.least.toInt :: record.values.toList.map Int8.toInt}
      (tally.addRecord record).least.toInt := by
  rw [addRecord, toInt_least_foldl_add, record.map_toInt_samples]
  exact isLeast_foldl_min _ _

theorem isGreatest_addRecord (record : Record) :
    IsGreatest {value | value ∈ tally.greatest.toInt :: record.values.toList.map Int8.toInt}
      (tally.addRecord record).greatest.toInt := by
  rw [addRecord, toInt_greatest_foldl_add, record.map_toInt_samples]
  exact isGreatest_foldl_max _ _

theorem foldl_addRecord (records : List Record) :
    records.foldl addRecord tally = (records.flatMap Record.samples).foldl add tally :=
  List.foldl_flatMap.symm

theorem foldl_addRecord_perm {records others : List Record} (perm : records.Perm others) :
    records.foldl addRecord tally = others.foldl addRecord tally := by
  rw [foldl_addRecord, foldl_addRecord]
  exact (perm.flatMap_right Record.samples).foldl_eq tally

/-- Whatever the tally holds, adding a record is adding its sum, which is the exact sum of sixteen
signed bytes, and letting each of its samples into least and greatest. Records may be added in any
order. -/
theorem records_added_in_any_order :
    (∀ (tally : Tally) (record : Record),
      (tally.addRecord record).sum = tally.sum + record.sum ∧
      IsLeast {value | value ∈ tally.least.toInt :: record.values.toList.map Int8.toInt}
        (tally.addRecord record).least.toInt ∧
      IsGreatest {value | value ∈ tally.greatest.toInt :: record.values.toList.map Int8.toInt}
        (tally.addRecord record).greatest.toInt) ∧
    (∀ record : Record,
      record.sum.toInt = (record.values.toList.map Int8.toInt).sum ∧
      -2048 ≤ record.sum.toInt ∧ record.sum.toInt ≤ 2032) ∧
    ∀ (tally : Tally) (records others : List Record), records.Perm others →
      records.foldl addRecord tally = others.foldl addRecord tally := by
  refine ⟨fun tally record => ⟨tally.sum_addRecord record, tally.isLeast_addRecord record,
    tally.isGreatest_addRecord record⟩, fun record => ⟨record.toInt_sum_eq, record.sum_bounds⟩, ?_⟩
  intro tally records others perm
  exact tally.foldl_addRecord_perm perm

theorem records_added_in_any_order_wrapping :
    [Record.sample, .lowest, .zero].Perm [.zero, .lowest, .sample] ∧
      [Record.sample, .lowest, .zero].foldl addRecord ⟨Int64.maxValue, -1000, -1000⟩ =
        [Record.zero, .lowest, .sample].foldl addRecord ⟨Int64.maxValue, -1000, -1000⟩ ∧
      (addRecord ⟨Int64.maxValue, -1000, -1000⟩ .sample).sum = Int64.minValue + 87 ∧
      Record.lowest.sum.toInt = -2048 := by
  obtain ⟨added, sums, reordered⟩ := records_added_in_any_order
  have perm : [Record.sample, .lowest, .zero].Perm [.zero, .lowest, .sample] := by decide +kernel
  refine ⟨perm, reordered _ _ _ perm, ?_, ?_⟩
  · rw [(added _ _).1]
    decide +kernel
  · rw [(sums _).1]
    decide +kernel

end ComputeBench.Tally
