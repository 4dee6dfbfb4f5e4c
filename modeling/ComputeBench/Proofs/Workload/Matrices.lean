import Mathlib
import ComputeBench.Proofs.Message.MatrixResponse

namespace ComputeBench.Workload

def squares (count : Nat) (first : Int) : Int :=
  ((List.range count).map fun offset : Nat => (first + offset) * (first + offset)).sum

theorem squares_succ (count : Nat) (first : Int) :
    squares (count + 1) first = first * first + squares count (first + 1) := by
  rw [squares, squares, List.range_succ_eq_map, List.map_cons, List.sum_cons, List.map_map]
  congr 1
  · simp
  · congr 1
    apply List.map_congr_left
    intro offset _
    simp only [Function.comp_apply, Nat.succ_eq_add_one]
    push_cast
    ring

theorem addSquares_ofInt (count : Nat) (first total : Int) :
    addSquares count (.ofInt first) (.ofInt total) = .ofInt (total + squares count first) := by
  induction count generalizing first total with
  | zero => rw [addSquares, squares, List.range_zero, List.map_nil, List.sum_nil, add_zero]
  | succ count ih =>
      -- a step on words is the word of the step on integers, so nothing is lost by wrapping
      have next : Int64.ofInt first + 1 = .ofInt (first + 1) := (Int64.ofInt_add first 1).symm
      have sum : Int64.ofInt total + .ofInt first * .ofInt first =
          .ofInt (total + first * first) := by
        rw [Int64.ofInt_add, Int64.ofInt_mul]
      rw [addSquares, next, sum, ih, squares_succ, add_assoc]

/-- The closed form, up to the greatest size whose last row ends in a signed word. -/
theorem expectedLastEntry_eq {size : Nat} (positive : 0 < size)
    (signed : size * size + 1 < 2 ^ 63) :
    expectedLastEntry size = .ofInt (squares size (size * (size - 1) + 1)) := by
  have last : size * (size - 1) + 1 + size = size * size + 1 := by
    rw [Nat.add_right_comm, Nat.mul_sub_one, Nat.sub_add_cancel (Nat.le_mul_self size)]
  have first : Int64.ofNat (size * (size - 1) + 1) = .ofInt (size * (size - 1) + 1) := by
    rw [← Int64.ofInt_eq_ofNat]
    push_cast [positive]
    rfl
  have stop : Int64.ofNat (size * (size - 1) + 1) + .ofNat size = .ofNat (size * size + 1) := by
    rw [← Int64.ofNat_add, last]
  have count : ((Int64.ofNat (size * size + 1)).toInt -
      (Int64.ofNat (size * (size - 1) + 1)).toInt).toNat = size := by
    rw [Int64.toInt_ofNat_of_lt signed, Int64.toInt_ofNat_of_lt (by omega)]
    omega
  have zero : (0 : Int64) = .ofInt 0 := rfl
  rw [expectedLastEntry, if_neg positive.ne']
  simp only [stop, count]
  rw [first, zero, addSquares_ofInt, zero_add]

-- one size further the last row ends past the greatest signed word
example : expectedLastEntry 3037000500 = 0 := by decide +kernel

def counting (size : Nat) : MatrixRequest :=
  ⟨size, size, (Array.range (size * size)).map fun index => .ofNat (index + 1)⟩

theorem counting_filled (size : Nat) : (counting size).values.size = size * size := by
  rw [counting, Array.size_map, Array.size_range]

theorem matrixRequest_eq {size : Nat} (fits : size < 2 ^ 30) :
    matrixRequest size = .ok (counting size).encode := by
  have storable : wordSize * (size * size) ≤ maxAllocation := by
    rw [Nat.mul_comm]
    exact square_storable.mpr fits
  have count : entryCount size = size * size := by
    rw [entryCount, Int64.toInt_ofNat_of_lt ((square_lt fits).trans (by decide)),
      Int.toNat_natCast]
  have reserved : ((counting size).values.size + 1) * wordSize ≤ maxAllocation := by
    rw [counting_filled]
    exact answer_storable (square_storable.mpr fits)
  rw [matrixRequest, count, allocate, if_pos storable]
  exact writeMatrix_eq_ok.mpr ⟨reserved, rfl⟩

theorem counting_whole {size : Nat} (fits : size < 2 ^ 30) (positive : 0 < size) :
    (counting size).Whole :=
  ⟨positive, fits.trans (by decide), counting_filled size⟩

theorem run_counting {size : Nat} (fits : size < 2 ^ 30) :
    (counting size).run = .ok (encodeMatrix size (counting size).gram) := by
  have answerable : (counting size).Answerable := ⟨fits, counting_filled size⟩
  have bounded : (counting size).values.size < addressSpace := by
    rw [counting_filled]
    exact square_lt_addressSpace fits
  exact MatrixRequest.run_of_answerable answerable bounded

theorem toInt_counting {size : Nat} (fits : size < 2 ^ 30) :
    (counting size).values.map Int64.toInt =
      (Array.range (size * size)).map fun index : Nat => (index + 1 : Int) := by
  rw [counting, Array.map_map]
  apply Array.map_congr_left
  intro index member
  have inside := Array.mem_range.mp member
  have signed : index + 1 < 2 ^ 63 := by
    have square := square_lt fits
    omega
  rw [Function.comp_apply, Int64.toInt_ofNat_of_lt signed, Nat.cast_succ]

theorem entry_counting {size : Nat} (fits : size < 2 ^ 30) {row column : Nat}
    (rowInside : row < size) (columnInside : column < size) :
    Gram.Exact.entry ((counting size).values.map Int64.toInt) size row column =
      row * size + column + 1 := by
  have inside : row * size + column < size * size :=
    counting_filled size ▸ Gram.place_lt rowInside (counting_filled size) columnInside
  rw [toInt_counting fits, Gram.Exact.entry, Array.getD_eq_getD_getElem?, Array.getElem?_map,
    Array.getElem?_range, if_pos inside, Option.map_some, Option.getD_some]
  push_cast
  rfl

theorem gram_counting_last {size : Nat} (fits : size < 2 ^ 30) (positive : 0 < size) :
    Gram.Exact.gram ((counting size).values.map Int64.toInt) size (size - 1) (size - 1) =
      squares size (size * (size - 1) + 1) := by
  have lastRow : size - 1 < size := Nat.sub_one_lt_of_lt positive
  apply congrArg List.sum
  apply List.map_congr_left
  intro column member
  rw [entry_counting fits lastRow (List.mem_range.mp member)]
  push_cast [positive]
  ring

theorem back?_gram_counting {size : Nat} (fits : size < 2 ^ 30) (positive : 0 < size) :
    (counting size).gram.back? = some (expectedLastEntry size) := by
  have lastRow : size - 1 < size := Nat.sub_one_lt_of_lt positive
  have last : (counting size).gram.size - 1 = (size - 1) * size + (size - 1) := by
    obtain ⟨before, rfl⟩ := Nat.exists_eq_succ_of_ne_zero positive.ne'
    rw [MatrixRequest.size_gram, Nat.succ_sub_one]
    exact congrArg Nat.pred (Nat.succ_mul before (before + 1))
  have entry : (counting size).gram[(size - 1) * size + (size - 1)]? =
      some (.ofInt (Gram.Exact.gram ((counting size).values.map Int64.toInt) size
        (size - 1) (size - 1))) :=
    MatrixRequest.getElem?_gram (counting_filled size) lastRow lastRow
  have signed : size * size + 1 < 2 ^ 63 := by
    have square := square_lt fits
    omega
  rw [Array.back?, last, entry, expectedLastEntry_eq positive signed,
    gram_counting_last fits positive]

/-- The closed form is the last entry of the whole service's answer. Every generated request is read
back as the square it was made from and answered at the foretold length, apart from the empty one,
which has no rows to read. -/
theorem matrixRequest_reaches_expectedLastEntry (size : Nat) (fits : size < 2 ^ 30) :
    ∃ bytes, matrixRequest size = .ok bytes ∧
      (size = 0 → MatrixRequest.decode bytes = .error (.invalidRows 0)) ∧
      (0 < size →
        ∃ request response answer,
          MatrixRequest.decode bytes = .ok request ∧
          request.rows = size ∧ request.cols = size ∧
          request.values.map Int64.toInt =
            (Array.range (size * size)).map (fun index : Nat => (index + 1 : Int)) ∧
          request.run = .ok response ∧ response.length = responseLength size ∧
          MatrixResponse.decode response = .ok answer ∧
          answer.rows = size ∧ answer.values.size = size * size ∧
          answer.values.back? = some (expectedLastEntry size)) := by
  refine ⟨_, matrixRequest_eq fits, ?_, ?_⟩
  · rintro rfl
    rw [MatrixRequest.decode_encode]
    exact MatrixRequest.ofWords_of_not_divides (.inl le_rfl)
  · intro positive
    exact ⟨counting size, _, _, (counting_whole fits positive).decode_encode, rfl, rfl,
      toInt_counting fits, run_counting fits, (counting size).length_answer,
      (counting size).decode_answer fits, rfl, (counting size).size_gram,
      back?_gram_counting fits positive⟩

theorem matrixRequest_three :
    3 < 2 ^ 30 ∧
      ∃ bytes request response answer, matrixRequest 3 = .ok bytes ∧
        MatrixRequest.decode bytes = .ok request ∧ request.run = .ok response ∧
        response.length = 80 ∧ MatrixResponse.decode response = .ok answer ∧
        answer.values.back? = some 194 := by
  obtain ⟨bytes, generated, -, answered⟩ :=
    matrixRequest_reaches_expectedLastEntry 3 (by decide)
  obtain ⟨request, response, answer, decoded, -, -, -, ran, length, reread, -, -, last⟩ :=
    answered (by decide)
  have sum : expectedLastEntry 3 = 194 := by decide +kernel
  exact ⟨by decide, bytes, request, response, answer, generated, decoded, ran, length, reread,
    sum ▸ last⟩

end ComputeBench.Workload
