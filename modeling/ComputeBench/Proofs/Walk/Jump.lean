import Mathlib
import ComputeBench.Walk.Cursor

namespace ComputeBench

namespace Record

def lowest : Record := ⟨Vector.replicate recordSize (-128)⟩

def jumpAt (record : Record) (step : Nat) : Int :=
  (record.values.get ⟨step % recordSize, Nat.mod_lt step recordSize_pos⟩).toInt

@[simp] theorem jumpAt_mod (record : Record) (step : Nat) :
    record.jumpAt (step % recordSize) = record.jumpAt step := by
  simp only [jumpAt, Nat.mod_mod]

theorem get_of_lt (record : Record) {lane : Nat}
    (inside : lane < recordSize) :
    record.get lane = .ok (record.values.get ⟨lane, inside⟩) := by
  have present : record.values.toArray[lane]? =
      some (record.values.get ⟨lane, inside⟩) :=
    Array.getElem?_eq_getElem (by rwa [record.values.size_toArray])
  rw [Record.get, itemAt, present]

end Record

namespace Cursor

theorem toNat_forward {jump : Int8} (forward : 0 ≤ jump) :
    (jump.toUInt8.toUInt64.toNat : Int) = jump.toInt := by
  rw [UInt8.toNat_toUInt64, Int8.toNat_toUInt8_of_le forward]
  exact Int8.cast_toNatClampNeg jump forward

theorem toNat_magnitude {jump : Int8} (backward : ¬ 0 ≤ jump) :
    ((magnitude jump).toNat : Int) = -jump.toInt := by
  have negative : jump.toInt < 0 := by
    rw [Int8.le_iff_toInt_le] at backward
    simpa using backward
  have signed : jump.toInt =
      if 2 * jump.toBitVec.toNat < 2 ^ 8 then (jump.toBitVec.toNat : Int)
      else jump.toBitVec.toNat - (2 ^ 8 : Nat) :=
    BitVec.toInt_eq_toNat_cond jump.toBitVec
  have word : (-jump).toUInt8.toNat = (-jump.toBitVec).toNat := rfl
  have bound := jump.toBitVec.isLt
  rw [magnitude, UInt8.toNat_toUInt64, word, BitVec.toNat_neg]
  split at signed <;> omega

theorem toNat_wrap {index count : UInt64} (jump : Int8)
    (inside : index.toNat < count.toNat) (room : count.toNat ≤ 2 ^ 63) :
    ((wrap index count jump).toNat : Int) =
      (index.toNat + jump.toInt) % count.toNat := by
  have lower := jump.le_toInt
  have upper := jump.toInt_lt
  by_cases forward : 0 ≤ jump
  · have size := toNat_forward forward
    rw [wrap, if_pos forward, UInt64.toNat_mod, UInt64.toNat_add,
      Nat.mod_eq_of_lt (a := _ + _) (by omega)]
    push_cast
    rw [size]
  · have size := toNat_magnitude forward
    have rest := Nat.mod_lt (magnitude jump).toNat (by omega : 0 < count.toNat)
    have ahead : (count - magnitude jump % count).toNat =
        count.toNat - (magnitude jump).toNat % count.toNat := by
      rw [UInt64.toNat_sub_of_le, UInt64.toNat_mod]
      rw [UInt64.le_iff_toNat_le, UInt64.toNat_mod]
      exact rest.le
    -- index and count are both at most half the address space, so the sum does not wrap
    rw [wrap, if_neg forward, UInt64.toNat_mod, UInt64.toNat_add, ahead,
      Nat.mod_eq_of_lt (a := _ + _) (by omega)]
    push_cast [rest.le]
    calc
      ((index.toNat : Int) + (count.toNat -
            ((magnitude jump).toNat : Int) % count.toNat)) % count.toNat =
          (index.toNat - ((magnitude jump).toNat : Int) % count.toNat +
            count.toNat) % count.toNat := by ring_nf
      _ = (index.toNat - ((magnitude jump).toNat : Int)) % count.toNat := by
        rw [Int.add_emod_right, Int.sub_emod_emod]
      _ = (index.toNat + jump.toInt) % count.toNat := by
        rw [size, sub_neg_eq_add]

theorem advance_of_lt (cursor : Cursor) (current : Record)
    (inside : cursor.lane < recordSize) :
    cursor.advance current = .ok {
      record := wrap cursor.record cursor.count
        (current.values.get ⟨cursor.lane, inside⟩)
      lane := (cursor.lane + 1) % recordSize
      count := cursor.count } := by
  rw [advance, Record.get_of_lt current inside]
  rfl

structure Jumped (cursor : Cursor) (current : Record) (next : Cursor) : Prop where
  record : (next.record.toNat : Int) =
    (cursor.record.toNat + current.jumpAt cursor.lane) % cursor.count.toNat
  lane : next.lane = (cursor.lane + 1) % recordSize
  count : next.count = cursor.count

theorem exists_jumped {cursor : Cursor} (current : Record) (inLane : cursor.lane < recordSize)
    (inside : cursor.record.toNat < cursor.count.toNat) (room : cursor.count.toNat ≤ 2 ^ 63) :
    ∃ next, cursor.advance current = .ok next ∧ cursor.Jumped current next := by
  have jump : current.jumpAt cursor.lane =
      (current.values.get ⟨cursor.lane, inLane⟩).toInt := by
    simp only [Record.jumpAt, Nat.mod_eq_of_lt inLane]
  refine ⟨_, advance_of_lt cursor current inLane, ?_, rfl, rfl⟩
  rw [jump]
  exact toNat_wrap _ inside room

end Cursor

end ComputeBench
