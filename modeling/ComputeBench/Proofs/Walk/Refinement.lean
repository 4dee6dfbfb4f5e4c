import Mathlib
import ComputeBench.Proofs.Walk.Jump
import ComputeBench.Proofs.Walk.Summary
import ComputeBench.Walk.Exact
import ComputeBench.Walk.Run

namespace ComputeBench

variable {records : Array Record} {step : Nat}

/-- Records that a walk can be run on: at least one, and few enough that no sum of an index and a
jump overflows a word. -/
structure Walkable (records : Array Record) : Prop where
  nonempty : 0 < records.size
  room : records.size ≤ 2 ^ 63

theorem Walkable.of_fits (nonempty : 0 < records.size)
    (fits : records.size ≤ maxAllocation / recordSize) : Walkable records :=
  ⟨nonempty, fits.trans (by decide)⟩

namespace Walk

theorem jump_of_present {index : Nat} {current : Record}
    (present : records[index]? = some current) (step : Nat) :
    jump records index step = current.jumpAt step := by
  rw [jump, present]
  rfl

theorem natCast_position_succ (nonempty : 0 < records.size) (step : Nat) :
    (position records (step + 1) : Int) =
      (position records step + jump records (position records step) step) % records.size :=
  Int.toNat_of_nonneg (Int.emod_nonneg _ (by exact_mod_cast nonempty.ne'))

theorem position_lt (nonempty : 0 < records.size) (step : Nat) :
    position records step < records.size := by
  cases step with
  | zero => exact nonempty
  | succ step =>
      have size : (0 : Int) < records.size := by exact_mod_cast nonempty
      have below := Int.emod_lt_of_pos
        (position records step + jump records (position records step) step) size
      rw [← natCast_position_succ nonempty] at below
      exact_mod_cast below

theorem exists_current (nonempty : 0 < records.size) (step : Nat) :
    ∃ current, records[position records step]? = some current :=
  ⟨_, Array.getElem?_eq_getElem (position_lt nonempty step)⟩

theorem samples_succ (records : Array Record) (steps : Nat) :
    samples records (steps + 1) =
      samples records steps ++ samplesAt records (position records steps) := by
  rw [samples, List.range_succ, List.flatMap_append, List.flatMap_singleton]
  rfl

end Walk

namespace Cursor

structure At (records : Array Record) (step : Nat) (cursor : Cursor) : Prop where
  record : cursor.record.toNat = Walk.position records step
  lane : cursor.lane = step % recordSize
  count : cursor.count.toNat = records.size

variable {cursor : Cursor}

theorem At.inside (there : cursor.At records step) (nonempty : 0 < records.size) :
    cursor.record.toNat < cursor.count.toNat := by
  rw [there.record, there.count]
  exact Walk.position_lt nonempty step

theorem At.advance (there : cursor.At records step) (walkable : Walkable records)
    {current : Record} (present : records[Walk.position records step]? = some current) :
    ∃ next, cursor.advance current = .ok next ∧ next.At records (step + 1) := by
  have inLane : cursor.lane < recordSize := by
    rw [there.lane]
    exact Nat.mod_lt step recordSize_pos
  obtain ⟨next, advanced, jumped⟩ := exists_jumped current inLane
    (there.inside walkable.nonempty) (there.count ▸ walkable.room)
  refine ⟨next, advanced, ?_, ?_, jumped.count ▸ there.count⟩
  · apply Int.natCast_inj.mp
    rw [jumped.record, there.record, there.lane, there.count, Record.jumpAt_mod,
      Walk.natCast_position_succ walkable.nonempty, Walk.jump_of_present present]
  · rw [jumped.lane, there.lane, Nat.mod_add_mod]

theorem start_of_size {count : UInt64} (walkable : Walkable records)
    (whole : records.size = count.toNat) : start count = .ok ⟨0, 0, count⟩ := by
  apply if_neg
  rintro rfl
  exact walkable.nonempty.ne' whole

end Cursor

namespace Walker

structure At (records : Array Record) (step : Nat) (walker : Walker) : Prop where
  cursor : walker.cursor.At records step
  tally : walker.tally.Summarizes (Walk.samples records step)

variable {walker : Walker}

theorem step_of_present {current : Record} {cursor : Cursor}
    (present : records[walker.cursor.record.toNat]? = some current)
    (advanced : walker.cursor.advance current = .ok cursor) :
    walker.step records = .ok ⟨cursor, walker.tally.addRecord current⟩ := by
  rw [Walker.step, itemAt, present]
  simp only [ok_bind, advanced]
  rfl

theorem At.succ (there : walker.At records step) (walkable : Walkable records) :
    ∃ next, walker.step records = .ok next ∧ next.At records (step + 1) := by
  obtain ⟨current, present⟩ := Walk.exists_current walkable.nonempty step
  obtain ⟨cursor, advanced, arrived⟩ := there.cursor.advance walkable present
  refine ⟨⟨cursor, walker.tally.addRecord current⟩, ?_, arrived, ?_⟩
  · rw [← there.cursor.record] at present
    exact step_of_present present advanced
  · rw [Walk.samples_succ, Walk.samplesAt, present]
    exact there.tally.addRecord _

theorem At.run (there : walker.At records step) (walkable : Walkable records)
    (steps : Nat) :
    ∃ last, Walker.run records steps walker = .ok last ∧
      last.At records (step + steps) := by
  induction steps generalizing step walker with
  | zero => exact ⟨walker, rfl, there⟩
  | succ steps ih =>
      obtain ⟨next, stepped, arrived⟩ := there.succ walkable
      obtain ⟨last, ran, finished⟩ := ih arrived
      refine ⟨last, ?_, ?_⟩
      · rw [Walker.run, stepped]
        exact ran
      · rwa [Nat.add_right_comm] at finished

theorem start_at (count : UInt64) (whole : records.size = count.toNat) :
    At records 0 ⟨⟨0, 0, count⟩, .empty⟩ :=
  ⟨⟨rfl, rfl, whole.symm⟩, Tally.empty_summarizes⟩

def Reached (count : UInt64) (records : Array Record) (steps : Nat) (walker : Walker) : Prop :=
  ∃ first, Cursor.start count = .ok first ∧ run records steps ⟨first, .empty⟩ = .ok walker

theorem exists_reached {count : UInt64} (walkable : Walkable records)
    (whole : records.size = count.toNat) (steps : Nat) :
    ∃ walker : Walker, walker.Reached count records steps ∧ walker.At records steps := by
  obtain ⟨last, ran, finished⟩ := (start_at count whole).run walkable steps
  refine ⟨last, ⟨_, Cursor.start_of_size walkable whole, ran⟩, ?_⟩
  rwa [Nat.zero_add] at finished

theorem Reached.unique {count : UInt64} {other : Walker} {steps : Nat}
    (first : walker.Reached count records steps) (second : other.Reached count records steps) :
    walker = other := by
  obtain ⟨_, started, ran⟩ := first
  obtain ⟨_, restarted, reran⟩ := second
  cases started.symm.trans restarted
  exact Except.ok.inj (ran.symm.trans reran)

theorem At.of_reached {count : UInt64} {steps : Nat} (walkable : Walkable records)
    (whole : records.size = count.toNat) (reached : walker.Reached count records steps) :
    walker.At records steps := by
  obtain ⟨other, otherReached, there⟩ := exists_reached walkable whole steps
  exact reached.unique otherReached ▸ there

theorem Reached.answer {iterations count : UInt64}
    (reached : walker.Reached count records iterations.toNat)
    (whole : records.size = count.toNat) :
    walk iterations count records = .ok walker.tally := by
  obtain ⟨first, started, ran⟩ := reached
  rw [walk, started, requireLength, if_pos whole.symm]
  simp only [lift_refusing_ok, ok_bind, ran, lift_aborting_ok]
  rfl

end Walker

theorem walk_of_size (iterations : UInt64) {count : UInt64}
    (walkable : Walkable records) (whole : records.size = count.toNat) :
    ∃ tally, walk iterations count records = .ok tally ∧
      tally.Summarizes (Walk.samples records iterations.toNat) := by
  obtain ⟨walker, reached, there⟩ :=
    Walker.exists_reached walkable whole iterations.toNat
  exact ⟨walker.tally, reached.answer whole, there.tally⟩

/-- Every call answers: a zero count is refused first, then a count that is not the number of
records, and any other call returns the tally of exactly the samples that the exact walk reads. -/
theorem walk_refines_exact (iterations count : UInt64) (records : Array Record)
    (fits : records.size ≤ maxAllocation / recordSize) :
    (count = 0 →
      walk iterations count records = .error (.refused .zeroCount)) ∧
    (count ≠ 0 → records.size ≠ count.toNat →
      walk iterations count records =
        .error (.refused (.lengthMismatch .records count.toNat records.size))) ∧
    (count ≠ 0 → records.size = count.toNat →
      (∀ step, Walk.position records step < records.size) ∧
      ∃ tally, walk iterations count records = .ok tally ∧
        tally.Summarizes (Walk.samples records iterations.toNat)) := by
  refine ⟨?_, ?_, ?_⟩
  · intro zero
    rw [walk, Cursor.start, if_pos zero, lift_refusing_error, error_bind]
  · intro positive mismatch
    rw [walk, Cursor.start, if_neg positive, requireLength, if_neg mismatch.symm]
    simp only [lift_refusing_ok, ok_bind, lift_refusing_error, error_bind]
  · intro positive whole
    have nonempty : 0 < records.size := by
      rw [whole]
      exact UInt64.lt_iff_toNat_lt.mp (UInt64.pos_iff_ne_zero.mpr positive)
    exact ⟨Walk.position_lt nonempty,
      walk_of_size iterations (.of_fits nonempty fits) whole⟩

theorem walk_sample_then_zero :
    #[Record.sample, .zero].size ≤ maxAllocation / recordSize ∧
      walk 3 2 #[.sample, .zero] = .ok ⟨88, -120, 113⟩ := by
  have expected : Tally.Summarizes ⟨88, -120, 113⟩
      (Walk.samples #[.sample, .zero] 3) :=
    ⟨by decide +kernel, by decide +kernel, by decide +kernel⟩
  obtain ⟨-, tally, ran, summary⟩ :=
    (walk_refines_exact 3 2 #[.sample, .zero] (by decide)).2.2 (by decide) (by decide)
  exact ⟨by decide, by rw [ran, summary.unique expected]⟩

end ComputeBench
