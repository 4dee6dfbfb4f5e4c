import Mathlib
import ComputeBench.Bytes.RoundTrip
import ComputeBench.Image.Deflate.Zlib

namespace ComputeBench

namespace Deflate

variable {last : Bool} {data rest : Bytes} {done : Array UInt8}

theorem next_openingByte (last : Bool) (rest : Bytes) :
    (Bits.ofBytes (.ofNat last.toNat :: rest)).next =
      .ok (last, ⟨List.replicate 7 false, rest⟩) := by
  cases last with
  | false => rfl
  | true => rfl

theorem number_type (rest : Bytes) :
    Bits.number 2 ⟨List.replicate 7 false, rest⟩ =
      .ok (0, ⟨List.replicate 5 false, rest⟩) := rfl

theorem readStored_of_fits (pending : List Bool) (fits : data.length ≤ maxStored) :
    readStored ⟨pending, LittleEndian.encode 2 data.length ++
        (LittleEndian.encode 2 (maxStored - data.length) ++ (data ++ rest))⟩ done =
      .ok (done ++ data, .ofBytes rest) := by
  have length : LittleEndian.decode (LittleEndian.encode 2 data.length) = data.length := by
    rw [LittleEndian.decode_encode]
    exact Nat.mod_eq_of_lt (Nat.lt_succ_of_le fits)
  have complement : LittleEndian.decode (LittleEndian.encode 2 (maxStored - data.length)) =
      maxStored - data.length := by
    rw [LittleEndian.decode_encode]
    exact Nat.mod_eq_of_lt (Nat.lt_succ_of_le (Nat.sub_le _ _))
  have sum : data.length + (maxStored - data.length) = 65535 := Nat.add_sub_cancel' fits
  have enough : ¬ (data ++ rest).length < data.length := by simp
  simp only [LittleEndian.encode] at length complement
  simp only [readStored, Bits.aligned, LittleEndian.encode, List.cons_append, List.nil_append,
    length, complement, sum, if_neg enough, ne_eq, not_true_eq_false, if_false,
    List.take_left, List.drop_left]

theorem readBlocks_storedBlock (fits : data.length ≤ maxStored) (fuel : Nat) :
    readBlocks (fuel + 1) (.ofBytes (storedBlock last data ++ rest)) done =
      if last then .ok (done ++ data, .ofBytes rest)
      else readBlocks fuel (.ofBytes rest) (done ++ data) := by
  simp only [storedBlock, List.cons_append, List.append_assoc]
  simp only [readBlocks, next_openingByte, ok_bind, number_type, readBlock,
    readStored_of_fits _ fits]
  cases last with
  | false => rfl
  | true => rfl

theorem readBlocks_storedBlocks (full : Nat) (fits : data.length ≤ (full + 1) * maxStored)
    {fuel : Nat} (enough : full < fuel) :
    readBlocks fuel (.ofBytes (storedBlocks full data ++ rest)) done =
      .ok (done ++ data, .ofBytes rest) := by
  induction full generalizing data done fuel with
  | zero =>
      cases fuel with
      | zero => cases enough
      | succ fuel =>
          rw [Nat.zero_add, Nat.one_mul] at fits
          rw [storedBlocks, readBlocks_storedBlock fits, if_pos rfl]
  | succ full ih =>
      cases fuel with
      | zero => cases enough
      | succ fuel =>
          have block : (data.take maxStored).length ≤ maxStored := List.length_take_le _ _
          have later : (data.drop maxStored).length ≤ (full + 1) * maxStored := by
            rw [List.length_drop]
            rw [Nat.add_one_mul] at fits
            omega
          have joined : done ++ data.take maxStored ++ data.drop maxStored = done ++ data := by
            apply Array.toList_inj.mp
            simp
          rw [storedBlocks, List.append_assoc, readBlocks_storedBlock block,
            if_neg Bool.false_ne_true, ih later (Nat.lt_of_succ_lt_succ enough), joined]

theorem length_storedBlock (last : Bool) (data : Bytes) :
    (storedBlock last data).length = data.length + 5 := by
  simp [storedBlock]
  omega

theorem length_storedBlocks (full : Nat) (data : Bytes) :
    (storedBlocks full data).length = data.length + 5 * (full + 1) := by
  induction full generalizing data with
  | zero => exact length_storedBlock true data
  | succ full ih =>
      simp only [storedBlocks, List.length_append, length_storedBlock, ih, List.length_take,
        List.length_drop]
      omega

theorem length_store (data : Bytes) :
    (store data).length = data.length + 5 * ((data.length - 1) / maxStored + 1) :=
  length_storedBlocks _ data

theorem inflate_store (data rest : Bytes) :
    inflate (store data ++ rest) = .ok (data, rest) := by
  have fits : data.length ≤ ((data.length - 1) / maxStored + 1) * maxStored := by
    simp only [maxStored]
    omega
  have enough : (data.length - 1) / maxStored < (Bits.ofBytes (store data ++ rest)).size := by
    simp only [Bits.size, Bits.ofBytes, List.length_append, length_store]
    omega
  have read : readBlocks (Bits.ofBytes (store data ++ rest)).size
      (.ofBytes (store data ++ rest)) #[] = .ok (#[] ++ data, .ofBytes rest) :=
    readBlocks_storedBlocks _ fits enough
  have put : ((#[] : Array UInt8) ++ data).toList = data := by simp
  simp only [inflate, read, ok_bind, put]
  rfl

end Deflate

namespace Zlib

theorem length_wrap (data : Bytes) :
    (wrap data).length =
      data.length + 5 * ((data.length - 1) / Deflate.maxStored + 1) + 6 := by
  simp [wrap, Deflate.length_store]

end Zlib

end ComputeBench
