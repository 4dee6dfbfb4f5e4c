import Mathlib
import ComputeBench.Proofs.Walk.Refinement

namespace ComputeBench

variable {records : Array Record}

namespace Record

def negate (record : Record) : Record := ⟨record.values.map (- ·)⟩

/-- No sample is the least byte, the one whose negative is not a byte. -/
def Negatable (record : Record) : Prop := -128 ∉ record.values

instance (record : Record) : Decidable record.Negatable :=
  inferInstanceAs (Decidable (¬ _))

variable {record : Record}

theorem Negatable.toInt_neg (negatable : record.Negatable) {sample : Int8}
    (member : sample ∈ record.values) : (-sample).toInt = -sample.toInt := by
  have lower := sample.le_toInt
  have upper := sample.toInt_lt
  have above : sample.toInt ≠ -128 := by
    intro least
    have same : sample = -128 := Int8.toInt_inj.mp least
    exact negatable (same ▸ member)
  rw [Int8.toInt_neg]
  apply Int.bmod_eq_of_le_mul_two <;> omega

theorem Negatable.jumpAt_negate (negatable : record.Negatable) (step : Nat) :
    record.negate.jumpAt step = -record.jumpAt step := by
  have inLane : step % recordSize < recordSize := Nat.mod_lt step recordSize_pos
  have negated : record.negate.values.get ⟨step % recordSize, inLane⟩ =
      -record.values.get ⟨step % recordSize, inLane⟩ := Vector.getElem_map _ _
  rw [jumpAt, negated]
  exact negatable.toInt_neg (Vector.getElem_mem _)

theorem Negatable.samples_negate (negatable : record.Negatable) :
    record.negate.values.toList.map Int8.toInt =
      (record.values.toList.map Int8.toInt).map (- ·) := by
  rw [negate, Vector.toList_map, List.map_map, List.map_map]
  apply List.map_congr_left
  intro sample member
  exact negatable.toInt_neg (Vector.mem_toList_iff.mp member)

end Record

def opposite (count index : Nat) : Nat := (count - index) % count

def mirror (records : Array Record) : Array Record :=
  .ofFn fun index : Fin records.size =>
    have inside : opposite records.size index < records.size := Nat.mod_lt _ index.pos
    records[opposite records.size index].negate

@[simp] theorem size_mirror (records : Array Record) :
    (mirror records).size = records.size :=
  Array.size_ofFn

theorem exists_mirrored {index : Nat} (inside : index < records.size) :
    ∃ current ∈ records, records[opposite records.size index]? = some current ∧
      (mirror records)[index]? = some current.negate := by
  have opposed : opposite records.size index < records.size :=
    Nat.mod_lt _ (Nat.zero_lt_of_lt inside)
  refine ⟨records[opposite records.size index], Array.getElem_mem opposed,
    Array.getElem?_eq_getElem opposed, ?_⟩
  rw [mirror, Array.getElem?_ofFn, dif_pos inside]
  rfl

theorem opposite_opposite {count index : Nat} (inside : index < count) :
    opposite count (opposite count index) = index := by
  rcases Nat.eq_zero_or_pos index with rfl | after
  · simp [opposite]
  · rw [opposite, opposite, Nat.mod_eq_of_lt (a := count - index) (by omega),
      Nat.sub_sub_self inside.le, Nat.mod_eq_of_lt inside]

theorem opposite_add_mod {count index : Nat} (inside : index < count) :
    (opposite count index + index) % count = 0 := by
  rw [opposite, Nat.mod_add_mod, Nat.sub_add_cancel inside.le, Nat.mod_self]

theorem natCast_opposite {count index : Nat} (inside : index < count) :
    (opposite count index : Int) = -index % count := by
  rw [opposite, Int.natCast_emod, Int.natCast_sub inside.le, sub_eq_neg_add, Int.add_emod_right]

namespace Walk

section Reads

variable {index : Nat} (negatable : ∀ record ∈ records, record.Negatable)
  (inside : index < records.size)
include negatable inside

theorem jump_mirror (step : Nat) :
    jump (mirror records) index step =
      -jump records (opposite records.size index) step := by
  obtain ⟨current, member, present, mirrored⟩ := exists_mirrored inside
  rw [jump_of_present mirrored, jump_of_present present,
    (negatable current member).jumpAt_negate]

theorem samplesAt_mirror :
    samplesAt (mirror records) index =
      (samplesAt records (opposite records.size index)).map (- ·) := by
  obtain ⟨current, member, present, mirrored⟩ := exists_mirrored inside
  rw [samplesAt, mirrored, samplesAt, present]
  exact (negatable current member).samples_negate

end Reads

variable (nonempty : 0 < records.size) (negatable : ∀ record ∈ records, record.Negatable)
include nonempty negatable

theorem position_mirror (step : Nat) :
    position (mirror records) step = opposite records.size (position records step) := by
  induction step with
  | zero => exact (Nat.mod_self _).symm
  | succ step ih =>
      have inside := position_lt nonempty step
      have mirrored : 0 < (mirror records).size := by rwa [size_mirror]
      have opposed : opposite records.size (position records step) < records.size :=
        Nat.mod_lt _ nonempty
      apply Int.natCast_inj.mp
      calc
        (position (mirror records) (step + 1) : Int) =
            (-position records step % records.size +
              -jump records (position records step) step) % records.size := by
          rw [natCast_position_succ mirrored, ih, jump_mirror negatable opposed,
            opposite_opposite inside, natCast_opposite inside, size_mirror]
        _ = -(position records step + jump records (position records step) step) %
              records.size := by
          rw [Int.emod_add_emod, neg_add]
        _ = opposite records.size (position records (step + 1)) := by
          rw [natCast_opposite (position_lt nonempty _), natCast_position_succ nonempty]
          exact (Int.mod_modEq _ _).neg.symm

theorem samples_mirror (iterations : Nat) :
    samples (mirror records) iterations = (samples records iterations).map (- ·) := by
  induction iterations with
  | zero => rfl
  | succ steps ih =>
      have inside := position_lt nonempty steps
      have opposed : opposite records.size (position records steps) < records.size :=
        Nat.mod_lt _ nonempty
      rw [samples_succ, samples_succ, ih, List.map_append,
        position_mirror nonempty negatable, samplesAt_mirror negatable opposed,
        opposite_opposite inside]

end Walk

namespace Tally

structure Mirrors (tally mirrored : Tally) : Prop where
  sum : mirrored.sum = -tally.sum
  least : mirrored.least.toInt = -tally.greatest.toInt
  greatest : mirrored.greatest.toInt = -tally.least.toInt

theorem foldl_min_neg (read : List Int) (start : Int) :
    (read.map (- ·)).foldl min (-start) = -read.foldl max start := by
  rw [List.foldl_map]
  exact List.foldl_hom Neg.neg fun lesser sample => min_neg_neg lesser sample

theorem foldl_max_neg (read : List Int) (start : Int) :
    (read.map (- ·)).foldl max (-start) = -read.foldl min start := by
  rw [List.foldl_map]
  exact List.foldl_hom Neg.neg fun greater sample => max_neg_neg greater sample

theorem Summarizes.mirrors {tally mirrored : Tally} {read : List Int}
    (summary : tally.Summarizes read) (negated : mirrored.Summarizes (read.map (- ·))) :
    tally.Mirrors mirrored where
  sum := by
    apply Int64.toInt_inj.mp
    rw [Int64.toInt_neg, negated.sum, summary.sum, Int.bmod_neg_bmod, List.sum_neg]
  least := by
    rw [negated.least, summary.greatest]
    exact foldl_min_neg read (-256)
  greatest := by
    rw [negated.greatest, summary.least]
    exact foldl_max_neg read 256

end Tally

theorem Walker.exists_reached_mirror {count : UInt64} (nonempty : 0 < records.size)
    (fits : records.size ≤ maxAllocation / recordSize) (whole : records.size = count.toNat)
    (negatable : ∀ record ∈ records, record.Negatable) (steps : Nat) :
    ∃ walker mirrored : Walker, walker.Reached count records steps ∧
      mirrored.Reached count (mirror records) steps ∧
      (walker.cursor.record.toNat + mirrored.cursor.record.toNat) % records.size = 0 ∧
      walker.tally.Mirrors mirrored.tally := by
  have walkable : Walkable records := .of_fits nonempty fits
  have mirroredWalkable : Walkable (mirror records) :=
    .of_fits (by rwa [size_mirror]) (by rwa [size_mirror])
  obtain ⟨walker, reached, there⟩ := exists_reached walkable whole steps
  obtain ⟨mirrored, mirroredReached, mirroredThere⟩ :=
    exists_reached mirroredWalkable (by rwa [size_mirror]) steps
  refine ⟨walker, mirrored, reached, mirroredReached, ?_, ?_⟩
  · rw [there.cursor.record, mirroredThere.cursor.record,
      Walk.position_mirror nonempty negatable, Nat.add_comm,
      opposite_add_mod (Walk.position_lt nonempty steps)]
  · have summary := mirroredThere.tally
    rw [Walk.samples_mirror nonempty negatable] at summary
    exact there.tally.mirrors summary

/-- Negating every sample and putting every record where its opposite was turns each walk into its
mirror image: the sum and the extremes are negated, the extremes change places, and at every step
the two records together make up whole rounds of the array. -/
theorem walk_mirror (records : Array Record) (iterations count : UInt64)
    (nonempty : 0 < records.size) (fits : records.size ≤ maxAllocation / recordSize)
    (whole : records.size = count.toNat) (negatable : ∀ record ∈ records, record.Negatable) :
    (∃ tally mirrored, walk iterations count records = .ok tally ∧
      walk iterations count (mirror records) = .ok mirrored ∧ tally.Mirrors mirrored) ∧
    ∀ steps, ∃ walker mirrored : Walker, walker.Reached count records steps ∧
      mirrored.Reached count (mirror records) steps ∧
      (walker.cursor.record.toNat + mirrored.cursor.record.toNat) % records.size = 0 := by
  have sideBySide (steps : Nat) :=
    Walker.exists_reached_mirror nonempty fits whole negatable steps
  constructor
  · obtain ⟨walker, mirrored, reached, mirroredReached, -, mirrors⟩ :=
      sideBySide iterations.toNat
    exact ⟨walker.tally, mirrored.tally, reached.answer whole,
      mirroredReached.answer (by rwa [size_mirror]), mirrors⟩
  · intro steps
    obtain ⟨walker, mirrored, reached, mirroredReached, opposed, -⟩ := sideBySide steps
    exact ⟨walker, mirrored, reached, mirroredReached, opposed⟩

theorem walk_mirror_sample :
    0 < #[Record.sample, .zero, .zero].size ∧
      #[Record.sample, .zero, .zero].size ≤ maxAllocation / recordSize ∧
      #[Record.sample, .zero, .zero].size = (3 : UInt64).toNat ∧
      (∀ record ∈ #[Record.sample, .zero, .zero], record.Negatable) ∧
      (∃ mirrored, walk 4 3 (mirror #[.sample, .zero, .zero]) = .ok mirrored ∧
        mirrored.sum = -88 ∧ mirrored.least.toInt = -113 ∧ mirrored.greatest.toInt = 120) ∧
      ∃ walker mirrored : Walker, walker.Reached 3 #[.sample, .zero, .zero] 2 ∧
        mirrored.Reached 3 (mirror #[.sample, .zero, .zero]) 2 ∧
        (walker.cursor.record.toNat + mirrored.cursor.record.toNat) % 3 = 0 := by
  have negatable : ∀ record ∈ #[Record.sample, .zero, .zero], record.Negatable := by decide +kernel
  have answered : walk 4 3 #[.sample, .zero, .zero] = .ok ⟨88, -120, 113⟩ := by decide +kernel
  obtain ⟨⟨tally, mirrored, ran, mirroredRan, mirrors⟩, places⟩ :=
    walk_mirror #[.sample, .zero, .zero] 4 3 (by decide) (by decide) (by decide) negatable
  cases answered.symm.trans ran
  exact ⟨by decide, by decide, by decide, negatable,
    ⟨mirrored, mirroredRan, mirrors.sum, mirrors.least, mirrors.greatest⟩, places 2⟩

end ComputeBench
