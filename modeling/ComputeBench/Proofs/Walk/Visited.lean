import Mathlib
import ComputeBench.Proofs.Walk.Refinement

namespace ComputeBench

namespace Cursor

theorem wrap_lt {count : UInt64} (positive : 0 < count) (index : UInt64) (jump : Int8) :
    wrap index count jump < count := by
  unfold wrap
  split
  · exact UInt64.mod_lt _ positive
  · exact UInt64.mod_lt _ positive

structure Within (count : UInt64) (step : Nat) (cursor : Cursor) : Prop where
  record : cursor.record < cursor.count
  lane : cursor.lane = step % recordSize
  count : cursor.count = count

variable {count : UInt64} {step : Nat} {cursor : Cursor}

theorem Within.inLane (within : cursor.Within count step) : cursor.lane < recordSize := by
  rw [within.lane]
  exact Nat.mod_lt step recordSize_pos

theorem Within.advance (within : cursor.Within count step) (current : Record) :
    ∃ next, cursor.advance current = .ok next ∧ next.Within count (step + 1) := by
  have lane : (cursor.lane + 1) % recordSize = (step + 1) % recordSize := by
    rw [within.lane, Nat.mod_add_mod]
  have positive : 0 < cursor.count := UInt64.lt_of_le_of_lt UInt64.zero_le within.record
  exact ⟨_, advance_of_lt cursor current within.inLane, wrap_lt positive _ _, lane, within.count⟩

theorem Within.advance_congr (within : cursor.Within count step) {first second : Record}
    (jump : first.jumpAt step = second.jumpAt step) :
    cursor.advance first = cursor.advance second := by
  have same : first.values.get ⟨cursor.lane, within.inLane⟩ =
      second.values.get ⟨cursor.lane, within.inLane⟩ := by
    apply Int8.toInt_inj.mp
    simpa only [Record.jumpAt, ← within.lane] using jump
  rw [advance_of_lt _ _ within.inLane, advance_of_lt _ _ within.inLane, same]

end Cursor

namespace Walk

/-- At the record of every step the second array holds the same samples in some order and, unless
the step is the last, the same sample in the lane of the step. -/
structure Alike (count : UInt64) (records others : Array Record) (iterations : Nat) : Prop where
  samples : ∀ step < iterations, ∀ walker : Walker, walker.Reached count records step →
    (samplesAt others walker.cursor.record.toNat).Perm
      (samplesAt records walker.cursor.record.toNat)
  jumps : ∀ step, step + 1 < iterations → ∀ walker : Walker, walker.Reached count records step →
    jump others walker.cursor.record.toNat step = jump records walker.cursor.record.toNat step

end Walk

namespace Walker

variable {records others : Array Record} {count : UInt64} {step steps : Nat} {walker next : Walker}

theorem run_succ (records : Array Record) (steps : Nat) (walker : Walker) :
    run records (steps + 1) walker = run records steps walker >>= Walker.step records := by
  induction steps generalizing walker with
  | zero => exact bind_pure _
  | succ steps ih =>
      calc
        run records (steps + 1 + 1) walker =
            walker.step records >>= run records (steps + 1) := rfl
        _ = walker.step records >>= fun next =>
              run records steps next >>= Walker.step records :=
          bind_congr fun next => ih next
        _ = run records (steps + 1) walker >>= Walker.step records :=
          (bind_assoc _ _ _).symm

theorem Reached.succ (reached : walker.Reached count records steps)
    (stepped : walker.step records = .ok next) : next.Reached count records (steps + 1) := by
  obtain ⟨first, started, ran⟩ := reached
  exact ⟨first, started, by rw [run_succ, ran, ok_bind, stepped]⟩

theorem reached_start (positive : 0 < count) (records : Array Record) :
    Reached count records 0 ⟨⟨0, 0, count⟩, .empty⟩ :=
  ⟨_, if_neg (UInt64.ne_of_lt positive).symm, rfl⟩

theorem exists_steps (within : walker.cursor.Within count step)
    (whole : records.size = count.toNat) (same : others.size = records.size)
    (permuted : (Walk.samplesAt others walker.cursor.record.toNat).Perm
      (Walk.samplesAt records walker.cursor.record.toNat)) :
    ∃ next other, walker.step records = .ok next ∧ walker.step others = .ok other ∧
      next.cursor.Within count (step + 1) ∧ other.tally = next.tally ∧
      (Walk.jump others walker.cursor.record.toNat step =
        Walk.jump records walker.cursor.record.toNat step → other = next) := by
  have inside : walker.cursor.record.toNat < records.size := by
    rw [whole, ← within.count]
    exact UInt64.lt_iff_toNat_lt.mp within.record
  obtain ⟨mine, present⟩ : ∃ mine, records[walker.cursor.record.toNat]? = some mine :=
    ⟨_, Array.getElem?_eq_getElem inside⟩
  obtain ⟨theirs, otherPresent⟩ : ∃ theirs, others[walker.cursor.record.toNat]? = some theirs :=
    ⟨_, Array.getElem?_eq_getElem (same ▸ inside)⟩
  have values : theirs.values.toList.Perm mine.values.toList := by
    rw [Walk.samplesAt, Walk.samplesAt, present, otherPresent] at permuted
    exact (List.map_perm_map_iff fun _ _ => Int8.toInt_inj.mp).mp permuted
  obtain ⟨cursor, advanced, arrived⟩ := within.advance mine
  obtain ⟨otherCursor, otherAdvanced, -⟩ := within.advance theirs
  have tallies := Tally.addRecord_perm values walker.tally
  refine ⟨_, _, step_of_present present advanced,
    step_of_present otherPresent otherAdvanced, arrived, tallies, ?_⟩
  intro jump
  rw [Walk.jump_of_present present, Walk.jump_of_present otherPresent] at jump
  rw [within.advance_congr jump, advanced] at otherAdvanced
  rw [Except.ok.inj otherAdvanced, tallies]

variable {iterations : Nat} (positive : 0 < count) (whole : records.size = count.toNat)
  (same : others.size = records.size) (alike : Walk.Alike count records others iterations)
include positive whole same alike

theorem exists_reached_both (before : step < iterations) :
    ∃ walker : Walker, walker.Reached count records step ∧ walker.Reached count others step ∧
      walker.cursor.Within count step := by
  induction step with
  | zero =>
      exact ⟨_, reached_start positive records, reached_start positive others,
        positive, rfl, rfl⟩
  | succ step ih =>
      have earlier := Nat.lt_of_succ_lt before
      obtain ⟨walker, reached, otherReached, within⟩ := ih earlier
      -- another step is to come, so the two jumps are equal and one walker is left
      obtain ⟨next, other, stepped, otherStepped, arrived, -, together⟩ :=
        exists_steps within whole same (alike.samples step earlier walker reached)
      cases together (alike.jumps step before walker reached)
      exact ⟨next, reached.succ stepped, otherReached.succ otherStepped, arrived⟩

theorem exists_reached_end :
    ∃ walker other : Walker, walker.Reached count records iterations ∧
      other.Reached count others iterations ∧ other.tally = walker.tally := by
  cases iterations with
  | zero => exact ⟨_, _, reached_start positive records, reached_start positive others, rfl⟩
  | succ last =>
      obtain ⟨walker, reached, otherReached, within⟩ :=
        exists_reached_both positive whole same alike (Nat.lt_succ_self last)
      obtain ⟨next, other, stepped, otherStepped, -, tallies, -⟩ :=
        exists_steps within whole same
          (alike.samples last (Nat.lt_succ_self last) walker reached)
      exact ⟨next, other, reached.succ stepped, otherReached.succ otherStepped, tallies⟩

end Walker

theorem Walk.Alike.of_positions {count : UInt64} {records others : Array Record}
    {iterations : Nat} (walkable : Walkable records) (whole : records.size = count.toNat)
    (samples : ∀ step < iterations, (samplesAt others (position records step)).Perm
      (samplesAt records (position records step)))
    (jumps : ∀ step, step + 1 < iterations → jump others (position records step) step =
      jump records (position records step) step) :
    Alike count records others iterations := by
  constructor
  · intro step before walker reached
    rw [(Walker.At.of_reached walkable whole reached).cursor.record]
    exact samples step before
  · intro step before walker reached
    rw [(Walker.At.of_reached walkable whole reached).cursor.record]
    exact jumps step before

/-- A walk depends only on what it visits: over a second array that is alike at the record of every
step, the cursor is at the same record before every step and the answer is the same. Records that
are never visited may be anything, and so may the order of the samples that the last step reads. -/
theorem walk_eq_of_alike (iterations count : UInt64) (records others : Array Record)
    (nonempty : 0 < records.size) (whole : records.size = count.toNat)
    (same : others.size = records.size)
    (alike : Walk.Alike count records others iterations.toNat) :
    (∀ step < iterations.toNat, ∃ walker other : Walker, walker.Reached count records step ∧
      other.Reached count others step ∧ other.cursor.record = walker.cursor.record) ∧
    ∃ tally, walk iterations count records = .ok tally ∧
      walk iterations count others = .ok tally := by
  have positive : 0 < count := by
    rw [UInt64.lt_iff_toNat_lt, ← whole]
    exact nonempty
  constructor
  · intro step before
    obtain ⟨walker, reached, otherReached, -⟩ :=
      Walker.exists_reached_both positive whole same alike before
    exact ⟨walker, walker, reached, otherReached, rfl⟩
  · obtain ⟨walker, other, reached, otherReached, tallies⟩ :=
      Walker.exists_reached_end positive whole same alike
    exact ⟨walker.tally, reached.answer whole,
      tallies ▸ otherReached.answer (same.trans whole)⟩

/-- The walk reads record 0 and then, as its last, record 1. In the other array record 1 has its
samples in reverse and would jump elsewhere, and record 2 is another one. -/
theorem walk_eq_of_alike_reversed :
    0 < (#[⟨Record.zero.values.set 0 1⟩, .sample, .lowest] : Array Record).size ∧
      (#[⟨Record.zero.values.set 0 1⟩, .sample, .lowest] : Array Record).size =
        (3 : UInt64).toNat ∧
      (#[⟨Record.zero.values.set 0 1⟩, ⟨Record.sample.values.reverse⟩, .zero] :
        Array Record).size = 3 ∧
      Walk.Alike 3 #[⟨Record.zero.values.set 0 1⟩, .sample, .lowest]
        #[⟨Record.zero.values.set 0 1⟩, ⟨Record.sample.values.reverse⟩, .zero] 2 ∧
      ∃ tally, walk 2 3 #[⟨Record.zero.values.set 0 1⟩, .sample, .lowest] = .ok tally ∧
        walk 2 3 #[⟨Record.zero.values.set 0 1⟩, ⟨Record.sample.values.reverse⟩, .zero] =
          .ok tally := by
  have walkable : Walkable #[⟨Record.zero.values.set 0 1⟩, .sample, .lowest] :=
    ⟨by decide, by decide⟩
  have alike : Walk.Alike 3 #[⟨Record.zero.values.set 0 1⟩, .sample, .lowest]
      #[⟨Record.zero.values.set 0 1⟩, ⟨Record.sample.values.reverse⟩, .zero] 2 := by
    apply Walk.Alike.of_positions walkable rfl
    · decide +kernel
    · intro step before
      obtain rfl : step = 0 := by omega
      decide +kernel
  exact ⟨by decide, by decide, by decide, alike,
    (walk_eq_of_alike 2 3 _ _ (by decide) (by decide) (by decide) alike).2⟩

end ComputeBench
