import Mathlib
import ComputeBench.Proofs.Walk.Jump

namespace ComputeBench

/-- The exact sum of the jumps of records that are handed over one after another. -/
def displacement (driven : List Record) : Int :=
  (driven.mapIdx fun step record => record.jumpAt step).sum

theorem displacement_concat (driven : List Record) (current : Record) :
    displacement (driven ++ [current]) =
      displacement driven + current.jumpAt driven.length := by
  rw [displacement, List.mapIdx_concat, List.sum_append, List.sum_singleton]
  rfl

namespace Cursor

structure Driven (count : UInt64) (driven : List Record) (cursor : Cursor) : Prop where
  record : (cursor.record.toNat : Int) = displacement driven % count.toNat
  lane : cursor.lane = driven.length % recordSize
  count : cursor.count = count

variable {count : UInt64} {driven : List Record} {cursor : Cursor}

theorem Driven.inside (there : cursor.Driven count driven) (positive : 0 < count.toNat) :
    cursor.record.toNat < count.toNat := by
  have size : (0 : Int) < count.toNat := by exact_mod_cast positive
  have below := Int.emod_lt_of_pos (displacement driven) size
  rw [← there.record] at below
  exact_mod_cast below

theorem Driven.inLane (there : cursor.Driven count driven) : cursor.lane < recordSize := by
  rw [there.lane]
  exact Nat.mod_lt _ recordSize_pos

theorem driven_start (count : UInt64) : Driven count [] ⟨0, 0, count⟩ :=
  ⟨(Int.zero_emod _).symm, rfl, rfl⟩

theorem Driven.advance (there : cursor.Driven count driven) (positive : 0 < count.toNat)
    (room : count.toNat ≤ 2 ^ 63) (current : Record) :
    ∃ next, cursor.advance current = .ok next ∧ next.Driven count (driven ++ [current]) := by
  obtain ⟨next, advanced, jumped⟩ := exists_jumped current there.inLane
    (there.count ▸ there.inside positive) (there.count ▸ room)
  refine ⟨next, advanced, ?_, ?_, jumped.count.trans there.count⟩
  · rw [jumped.record, there.record, there.lane, there.count, Record.jumpAt_mod,
      Int.emod_add_emod, displacement_concat]
  · rw [jumped.lane, there.lane, Nat.mod_add_mod, List.length_append, List.length_singleton]

theorem Driven.drive (there : cursor.Driven count driven) (positive : 0 < count.toNat)
    (room : count.toNat ≤ 2 ^ 63) (rest : List Record) :
    ∃ path, cursor.drive rest = .ok path ∧ path.length = rest.length + 1 ∧
      ∀ step ≤ rest.length, ∃ place, path[step]? = some place ∧
        place.Driven count (driven ++ rest.take step) := by
  -- on the records still to come; those handed over grow at their other end
  induction rest generalizing driven cursor with
  | nil =>
      refine ⟨[cursor], rfl, rfl, ?_⟩
      intro step reached
      rw [Nat.le_zero.mp reached, List.take_zero, List.append_nil]
      exact ⟨cursor, rfl, there⟩
  | cons current rest ih =>
      obtain ⟨next, advanced, arrived⟩ := there.advance positive room current
      obtain ⟨path, driven, length, places⟩ := ih arrived
      refine ⟨cursor :: path, ?_, ?_, ?_⟩
      · rw [Cursor.drive, advanced, ok_bind, driven]
        rfl
      · rw [List.length_cons, length, List.length_cons]
      · intro step reached
        cases step with
        | zero => exact ⟨cursor, rfl, by rwa [List.take_zero, List.append_nil]⟩
        | succ step =>
            obtain ⟨place, found, closed⟩ := places step (Nat.le_of_succ_le_succ reached)
            refine ⟨place, found, ?_⟩
            rwa [List.append_assoc, List.singleton_append] at closed

theorem Driven.sums_lt (there : cursor.Driven count driven) (positive : 0 < count.toNat)
    (room : count.toNat ≤ 2 ^ 63) (jump : Int8) :
    cursor.record.toNat + jump.toUInt8.toUInt64.toNat < addressSpace ∧
      cursor.record.toNat + (count - magnitude jump % count).toNat < addressSpace := by
  have inside := there.inside positive
  have small := jump.toUInt8.toNat_lt
  have rest := Nat.mod_lt (magnitude jump).toNat positive
  have ahead : (count - magnitude jump % count).toNat ≤ count.toNat := by
    rw [UInt64.toNat_sub_of_le, UInt64.toNat_mod]
    · omega
    · rw [UInt64.le_iff_toNat_le, UInt64.toNat_mod]
      exact rest.le
  rw [UInt8.toNat_toUInt64, addressSpace]
  omega

/-- A fresh cursor that is handed any records stands, after each of them, in the lane that counts
the steps and at the record that the exact sum of the jumps leaves over. It is always inside, so
no read of a record fails and neither sum of a jump overflows its word. -/
theorem drive_closed_form (count : UInt64) (positive : 1 ≤ count.toNat)
    (room : count.toNat ≤ 2 ^ 63) (driven : List Record) :
    ∃ first path, start count = .ok first ∧ first.drive driven = .ok path ∧
      path.length = driven.length + 1 ∧
      ∀ step ≤ driven.length, ∃ cursor, path[step]? = some cursor ∧
        cursor.lane = step % 16 ∧
        (cursor.record.toNat : Int) = displacement (driven.take step) % count.toNat ∧
        cursor.count = count ∧ cursor.record.toNat < count.toNat ∧ cursor.lane < 16 ∧
        ∀ current : Record, ∃ jump, current.get cursor.lane = .ok jump ∧
          cursor.record.toNat + jump.toUInt8.toUInt64.toNat < addressSpace ∧
          cursor.record.toNat + (count - magnitude jump % count).toNat < addressSpace := by
  have some : count ≠ 0 := by
    rintro rfl
    exact absurd positive (by decide)
  obtain ⟨path, ran, length, places⟩ :=
    (driven_start count).drive positive room driven
  refine ⟨⟨0, 0, count⟩, path, if_neg some, ran, length, ?_⟩
  intro step reached
  obtain ⟨cursor, found, there⟩ := places step reached
  have lane := there.lane
  rw [List.nil_append, List.length_take_of_le reached] at lane
  refine ⟨cursor, found, lane, there.record, there.count, there.inside positive,
    there.inLane, ?_⟩
  intro current
  exact ⟨_, current.get_of_lt there.inLane, there.sums_lt positive room _⟩

/-- The greatest count there is room for, with two of the longest jumps backward from its start. -/
theorem drive_at_limit :
    1 ≤ (0x8000000000000000 : UInt64).toNat ∧
      (0x8000000000000000 : UInt64).toNat ≤ 2 ^ 63 ∧
      ∃ first path cursor, start 0x8000000000000000 = .ok first ∧
        first.drive [.lowest, .lowest, .sample] = .ok path ∧ path[3]? = some cursor ∧
          cursor.lane = 3 ∧ (cursor.record.toNat : Int) = 2 ^ 63 - 128 - 128 + 60 := by
  obtain ⟨first, path, started, ran, -, places⟩ :=
    drive_closed_form 0x8000000000000000 (by decide) (by decide) [.lowest, .lowest, .sample]
  obtain ⟨cursor, found, lane, record, -⟩ := places 3 (by decide)
  have wrapped : displacement ([.lowest, .lowest, .sample].take 3) %
      (0x8000000000000000 : UInt64).toNat = 2 ^ 63 - 128 - 128 + 60 := by decide +kernel
  exact ⟨by decide, by decide, first, path, cursor, started, ran, found, lane,
    record.trans wrapped⟩

end Cursor

end ComputeBench
