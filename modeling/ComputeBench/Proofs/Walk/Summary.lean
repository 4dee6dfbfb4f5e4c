import Mathlib
import ComputeBench.Proofs.Records.Sum
import ComputeBench.Walk.Tally

namespace ComputeBench.Tally

structure Summarizes (tally : Tally) (samples : List Int) : Prop where
  sum : tally.sum.toInt = samples.sum.bmod (2 ^ 64)
  least : tally.least.toInt = samples.foldl min 256
  greatest : tally.greatest.toInt = samples.foldl max (-256)

variable {tally other : Tally} {read : List Int}

theorem empty_summarizes : empty.Summarizes [] :=
  ⟨rfl, rfl, rfl⟩

theorem eq_of_toInt_eq (sum : tally.sum.toInt = other.sum.toInt)
    (least : tally.least.toInt = other.least.toInt)
    (greatest : tally.greatest.toInt = other.greatest.toInt) : tally = other := by
  cases tally
  cases other
  congr 1
  · exact Int64.toInt_inj.mp sum
  · exact Int64.toInt_inj.mp least
  · exact Int64.toInt_inj.mp greatest

theorem Summarizes.unique (first : tally.Summarizes read)
    (second : other.Summarizes read) : tally = other :=
  eq_of_toInt_eq (first.sum.trans second.sum.symm) (first.least.trans second.least.symm)
    (first.greatest.trans second.greatest.symm)

theorem Summarizes.sum_eq_add {longer : List Int} (before : tally.Summarizes read)
    (after : other.Summarizes longer) :
    other.sum = tally.sum + .ofInt (longer.sum - read.sum) := by
  have size : Int64.size = 2 ^ 64 := rfl
  apply Int64.toInt_inj.mp
  rw [Int64.toInt_add, Int64.toInt_ofInt, before.sum, after.sum, size, Int.add_bmod_bmod,
    Int.bmod_add_bmod, add_sub_cancel]

theorem toInt_lesser (first second : Int64) :
    (if first < second then first else second).toInt =
      min second.toInt first.toInt := by
  split
  case isTrue below => exact (min_eq_right (Int64.lt_iff_toInt_lt.mp below).le).symm
  case isFalse above =>
      exact (min_eq_left (not_lt.mp (mt Int64.lt_iff_toInt_lt.mpr above))).symm

theorem toInt_greater (first second : Int64) :
    (if first < second then second else first).toInt =
      max first.toInt second.toInt := by
  split
  case isTrue below => exact (max_eq_right (Int64.lt_iff_toInt_lt.mp below).le).symm
  case isFalse above =>
      exact (max_eq_left (not_lt.mp (mt Int64.lt_iff_toInt_lt.mpr above))).symm

theorem toInt_least_add (tally : Tally) (sample : Int64) :
    (tally.add sample).least.toInt = min tally.least.toInt sample.toInt :=
  toInt_lesser sample tally.least

theorem toInt_greatest_add (tally : Tally) (sample : Int64) :
    (tally.add sample).greatest.toInt = max tally.greatest.toInt sample.toInt :=
  toInt_greater tally.greatest sample

theorem add_right_comm (tally : Tally) (first second : Int64) :
    (tally.add first).add second = (tally.add second).add first := by
  have sum : tally.sum + first + second = tally.sum + second + first := by
    rw [Int64.add_assoc, Int64.add_comm first, ← Int64.add_assoc]
  apply eq_of_toInt_eq
  · exact congrArg Int64.toInt sum
  · simp only [toInt_least_add, min_right_comm]
  · simp only [toInt_greatest_add, max_right_comm]

instance : RightCommutative add := ⟨add_right_comm⟩

theorem addRecord_perm {first second : Record}
    (perm : first.values.toList.Perm second.values.toList) (tally : Tally) :
    tally.addRecord first = tally.addRecord second :=
  (perm.map Int8.toInt64).foldl_eq tally

theorem sum_foldl_add (samples : List Int64) (tally : Tally) :
    (samples.foldl add tally).sum = tally.sum + samples.sum := by
  induction samples generalizing tally with
  | nil => exact (Int64.add_zero _).symm
  | cons sample rest ih =>
      rw [List.foldl_cons, ih, List.sum_cons, ← Int64.add_assoc]
      rfl

theorem toInt_least_foldl_add (samples : List Int64) (tally : Tally) :
    (samples.foldl add tally).least.toInt =
      (samples.map Int64.toInt).foldl min tally.least.toInt := by
  rw [List.foldl_map]
  refine (List.foldl_hom (fun reached : Tally => reached.least.toInt) ?_).symm
  intro reached sample
  exact (toInt_least_add reached sample).symm

theorem toInt_greatest_foldl_add (samples : List Int64) (tally : Tally) :
    (samples.foldl add tally).greatest.toInt =
      (samples.map Int64.toInt).foldl max tally.greatest.toInt := by
  rw [List.foldl_map]
  refine (List.foldl_hom (fun reached : Tally => reached.greatest.toInt) ?_).symm
  intro reached sample
  exact (toInt_greatest_add reached sample).symm

theorem Summarizes.foldl_add (held : tally.Summarizes read)
    (samples : List Int64) :
    (samples.foldl Tally.add tally).Summarizes
      (read ++ samples.map Int64.toInt) where
  sum := by
    rw [sum_foldl_add, Int64.toInt_add, held.sum, toInt_sum, List.sum_append, Int.bmod_add_bmod,
      Int.add_bmod_bmod]
  least := by rw [toInt_least_foldl_add, List.foldl_append, held.least]
  greatest := by rw [toInt_greatest_foldl_add, List.foldl_append, held.greatest]

theorem Summarizes.addRecord (held : tally.Summarizes read) (record : Record) :
    (tally.addRecord record).Summarizes
      (read ++ record.values.toList.map Int8.toInt) := by
  rw [← record.map_toInt_samples]
  exact held.foldl_add record.samples

theorem isLeast_foldl_min (values : List Int) (start : Int) :
    IsLeast {value | value ∈ start :: values} (values.foldl min start) :=
  List.min?_eq_some_iff.mp List.min?_cons'

theorem isGreatest_foldl_max (values : List Int) (start : Int) :
    IsGreatest {value | value ∈ start :: values} (values.foldl max start) :=
  List.max?_eq_some_iff.mp List.max?_cons'

theorem Summarizes.isLeast (held : tally.Summarizes read) (some : read ≠ [])
    (bounded : ∀ sample ∈ read, -128 ≤ sample ∧ sample ≤ 127) :
    IsLeast {sample | sample ∈ read} tally.least.toInt := by
  obtain ⟨member, below⟩ := isLeast_foldl_min read 256
  rw [← held.least] at member below
  obtain ⟨first, present⟩ := List.exists_mem_of_ne_nil read some
  have replaced := below (List.mem_cons_of_mem 256 present)
  -- the value held before any sample is beyond all of them, so the least is a sample
  have small := (bounded first present).2
  refine ⟨(List.mem_cons.mp member).resolve_left (by omega), ?_⟩
  intro sample among
  exact below (List.mem_cons_of_mem 256 among)

theorem Summarizes.isGreatest (held : tally.Summarizes read) (some : read ≠ [])
    (bounded : ∀ sample ∈ read, -128 ≤ sample ∧ sample ≤ 127) :
    IsGreatest {sample | sample ∈ read} tally.greatest.toInt := by
  obtain ⟨member, above⟩ := isGreatest_foldl_max read (-256)
  rw [← held.greatest] at member above
  obtain ⟨first, present⟩ := List.exists_mem_of_ne_nil read some
  have replaced := above (List.mem_cons_of_mem (-256) present)
  have large := (bounded first present).1
  refine ⟨(List.mem_cons.mp member).resolve_left (by omega), ?_⟩
  intro sample among
  exact above (List.mem_cons_of_mem (-256) among)

theorem Summarizes.isEmpty_iff (held : tally.Summarizes read)
    (bounded : ∀ sample ∈ read, -128 ≤ sample ∧ sample ≤ 127) :
    tally.isEmpty = true ↔ read = [] := by
  constructor
  · intro untouched
    by_contra some
    have reached := (bounded _ (held.isLeast some bounded).1).2
    simp only [isEmpty, Bool.and_eq_true, beq_iff_eq] at untouched
    rw [untouched.1] at reached
    exact absurd reached (by decide)
  · rintro rfl
    rw [held.unique empty_summarizes]
    rfl

end ComputeBench.Tally
