import Mathlib
import ComputeBench.Proofs.Walk.Refinement

namespace ComputeBench

variable {records : Array Record} {copies : Nat}

def tile (copies : Nat) (records : Array Record) : Array Record :=
  (Array.replicate copies records).flatten

@[simp] theorem size_tile (copies : Nat) (records : Array Record) :
    (tile copies records).size = copies * records.size := by
  rw [tile, Array.size_flatten, Array.map_replicate, Array.sum_replicate_nat]

theorem tile_succ (copies : Nat) (records : Array Record) :
    tile (copies + 1) records = tile copies records ++ records := by
  rw [tile, Array.replicate_succ, Array.flatten_push]
  rfl

theorem getElem?_tile {index : Nat} (inside : index < copies * records.size) :
    (tile copies records)[index]? = records[index % records.size]? := by
  induction copies with
  | zero => simp at inside
  | succ copies ih =>
      rw [tile_succ]
      by_cases before : index < copies * records.size
      · rw [Array.getElem?_append_left (by rwa [size_tile]), ih before]
      · -- the last copy, which starts at a multiple of the number of records
        have beyond : copies * records.size ≤ index := not_lt.mp before
        obtain ⟨rest, rfl⟩ := Nat.exists_eq_add_of_le beyond
        have last : rest < records.size := by
          rw [Nat.succ_mul] at inside
          omega
        rw [Array.getElem?_append_right (by rwa [size_tile]), size_tile, Nat.add_sub_cancel_left,
          Nat.mul_add_mod_self_right, Nat.mod_eq_of_lt last]

namespace Walk

theorem jump_tile {index : Nat} (inside : index < copies * records.size) (step : Nat) :
    jump (tile copies records) index step = jump records (index % records.size) step := by
  rw [jump, getElem?_tile inside, jump]

theorem samplesAt_tile {index : Nat} (inside : index < copies * records.size) :
    samplesAt (tile copies records) index = samplesAt records (index % records.size) := by
  rw [samplesAt, getElem?_tile inside, samplesAt]

variable (nonempty : 0 < records.size) (positive : 1 ≤ copies)
include nonempty positive

theorem tile_nonempty : 0 < (tile copies records).size := by
  rw [size_tile]
  exact Nat.mul_pos positive nonempty

theorem position_tile_lt (step : Nat) :
    position (tile copies records) step < copies * records.size := by
  rw [← size_tile]
  exact position_lt (tile_nonempty nonempty positive) step

/-- Reducing by the longer count first does not change what the shorter count leaves over. -/
theorem position_tile_mod (step : Nat) :
    position (tile copies records) step % records.size = position records step := by
  induction step with
  | zero => exact Nat.zero_mod _
  | succ step ih =>
      have inside := position_tile_lt nonempty positive step
      have divides : (records.size : Int) ∣ (copies * records.size : Nat) := by
        exact_mod_cast Nat.dvd_mul_left records.size copies
      apply Int.natCast_inj.mp
      push_cast
      calc
        (position (tile copies records) (step + 1) : Int) % records.size =
            (position (tile copies records) step +
              jump records (position records step) step) % records.size := by
          rw [natCast_position_succ (tile_nonempty nonempty positive), jump_tile inside, ih,
            size_tile, Int.emod_emod_of_dvd _ divides]
        _ = ((position (tile copies records) step % records.size : Nat) +
              jump records (position records step) step) % records.size := by
          rw [Int.natCast_emod, Int.emod_add_emod]
        _ = position records (step + 1) := by
          rw [ih, natCast_position_succ nonempty]

theorem samples_tile (iterations : Nat) :
    samples (tile copies records) iterations = samples records iterations := by
  induction iterations with
  | zero => rfl
  | succ steps ih =>
      rw [samples_succ, samples_succ, ih,
        samplesAt_tile (position_tile_lt nonempty positive steps),
        position_tile_mod nonempty positive]

end Walk

theorem Walker.exists_reached_tile {count tiledCount : UInt64} (nonempty : 0 < records.size)
    (positive : 1 ≤ copies) (fits : copies * records.size ≤ maxAllocation / recordSize)
    (whole : records.size = count.toNat) (tiledWhole : copies * records.size = tiledCount.toNat)
    (steps : Nat) :
    ∃ walker tiled : Walker, walker.Reached count records steps ∧
      tiled.Reached tiledCount (tile copies records) steps ∧
      tiled.cursor.record.toNat ≡ walker.cursor.record.toNat [MOD records.size] ∧
      tiled.cursor.lane = walker.cursor.lane ∧ tiled.tally = walker.tally := by
  have walkable : Walkable records :=
    .of_fits nonempty ((Nat.le_mul_of_pos_left _ positive).trans fits)
  have tiledWalkable : Walkable (tile copies records) :=
    .of_fits (Walk.tile_nonempty nonempty positive) (by rwa [size_tile])
  obtain ⟨walker, reached, there⟩ := exists_reached walkable whole steps
  obtain ⟨tiled, tiledReached, tiledThere⟩ :=
    exists_reached tiledWalkable (by rwa [size_tile]) steps
  refine ⟨walker, tiled, reached, tiledReached, ?_, ?_, ?_⟩
  · rw [tiledThere.cursor.record, there.cursor.record, Nat.ModEq,
      Walk.position_tile_mod nonempty positive,
      Nat.mod_eq_of_lt (Walk.position_lt nonempty steps)]
  · rw [tiledThere.cursor.lane, there.cursor.lane]
  · have summary := tiledThere.tally
    rw [Walk.samples_tile nonempty positive] at summary
    exact summary.unique there.tally

/-- Repeating the records changes neither the answer of a walk nor, up to whole copies, the record
it is at after any number of steps. -/
theorem walk_tile (records : Array Record) (copies : Nat) (iterations count tiledCount : UInt64)
    (nonempty : 0 < records.size) (positive : 1 ≤ copies)
    (fits : copies * records.size ≤ maxAllocation / recordSize)
    (whole : records.size = count.toNat) (tiledWhole : copies * records.size = tiledCount.toNat) :
    (∃ tally, walk iterations tiledCount (tile copies records) = .ok tally ∧
      walk iterations count records = .ok tally) ∧
    ∀ steps, ∃ walker tiled : Walker, walker.Reached count records steps ∧
      tiled.Reached tiledCount (tile copies records) steps ∧
      tiled.cursor.record.toNat ≡ walker.cursor.record.toNat [MOD records.size] := by
  have sideBySide (steps : Nat) :=
    Walker.exists_reached_tile nonempty positive fits whole tiledWhole steps
  constructor
  · obtain ⟨walker, tiled, reached, tiledReached, -, -, tally⟩ := sideBySide iterations.toNat
    refine ⟨walker.tally, ?_, reached.answer whole⟩
    rw [tiledReached.answer (by rwa [size_tile]), tally]
  · intro steps
    obtain ⟨walker, tiled, reached, tiledReached, congruent, -⟩ := sideBySide steps
    exact ⟨walker, tiled, reached, tiledReached, congruent⟩

theorem walk_tile_three :
    0 < #[Record.sample, .lowest].size ∧
      3 * #[Record.sample, .lowest].size ≤ maxAllocation / recordSize ∧
      #[Record.sample, .lowest].size = (2 : UInt64).toNat ∧
      3 * #[Record.sample, .lowest].size = (6 : UInt64).toNat ∧
      (∃ tally, walk 5 6 (tile 3 #[.sample, .lowest]) = .ok tally ∧
        walk 5 2 #[.sample, .lowest] = .ok tally) ∧
      ∃ walker tiled : Walker, walker.Reached 2 #[.sample, .lowest] 2 ∧
        tiled.Reached 6 (tile 3 #[.sample, .lowest]) 2 ∧
        tiled.cursor.record.toNat ≡ walker.cursor.record.toNat [MOD 2] := by
  obtain ⟨same, places⟩ := walk_tile #[.sample, .lowest] 3 5 2 6 (by decide) (by decide)
    (by decide) (by decide) (by decide)
  exact ⟨by decide, by decide, by decide, by decide, same, places 2⟩

end ComputeBench
