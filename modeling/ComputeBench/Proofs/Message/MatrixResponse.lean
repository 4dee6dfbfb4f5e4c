import Mathlib
import ComputeBench.Proofs.Gram.Product
import ComputeBench.Proofs.Message.ResponseFormat
import ComputeBench.Workload.Matrices

namespace ComputeBench

theorem square_lt {rows : Nat} (storable : rows < 2 ^ 30) : rows * rows < 2 ^ 60 :=
  calc
    rows * rows < 2 ^ 30 * 2 ^ 30 := Nat.mul_self_lt_mul_self storable
    _ = 2 ^ 60 := by norm_num

theorem square_storable {rows : Nat} :
    rows * rows * wordSize ≤ maxAllocation ↔ rows < 2 ^ 30 := by
  simp only [wordSize, maxAllocation]
  constructor
  · intro storable
    by_contra large
    have square := Nat.mul_le_mul (not_lt.mp large) (not_lt.mp large)
    omega
  · intro storable
    have square := square_lt storable
    omega

theorem answer_storable {rows : Nat} (storable : rows * rows * wordSize ≤ maxAllocation) :
    (rows * rows + 1) * wordSize ≤ maxAllocation := by
  have root : rows ≤ 2 ^ 30 - 1 := Nat.le_sub_one_of_lt (square_storable.mp storable)
  have square : rows * rows ≤ (2 ^ 30 - 1) * (2 ^ 30 - 1) := Nat.mul_self_le_mul_self root
  simp only [wordSize, maxAllocation]
  omega

theorem square_lt_addressSpace {rows : Nat} (storable : rows < 2 ^ 30) :
    rows * rows < addressSpace :=
  (square_lt storable).trans (by decide)

theorem responseLength_lt {rows : Nat} (storable : rows < 2 ^ 30) :
    Workload.responseLength rows < addressSpace := by
  have square := square_lt storable
  rw [Workload.responseLength]
  simp only [wordSize, addressSpace]
  omega

theorem toNat_responseSize (rows : UInt64) :
    (Workload.responseSize rows).toNat =
      Workload.responseLength rows.toNat % addressSpace := by
  rw [Workload.responseSize, Workload.responseLength, UInt64.toNat_mul, UInt64.toNat_add,
    UInt64.toNat_mul, Nat.mod_add_mod, Nat.mod_mul_mod]
  rfl

namespace MatrixRequest

variable {request : MatrixRequest}

def gram (request : MatrixRequest) : Array Int64 :=
  (Gram.gramOf request.shape (request.values.map Int64.toBitVec)).map Int64.ofBitVec

theorem size_gram (request : MatrixRequest) :
    request.gram.size = request.rows * request.rows := by
  rw [gram, Array.size_map, Gram.size_gramOf]
  rfl

theorem getElem?_gram (filled : request.values.size = request.rows * request.cols)
    {first second : Nat} (firstInside : first < request.rows)
    (secondInside : second < request.rows) :
    request.gram[first * request.rows + second]? =
      some (.ofInt (Gram.Exact.gram (request.values.map Int64.toInt) request.cols
        first second)) := by
  have whole : (request.values.map Int64.toBitVec).size =
      request.shape.rows * request.shape.cols := by
    rw [Array.size_map, filled]
    rfl
  have values : (request.values.map Int64.toBitVec).map (Gram.IntegerType.value ⟨true, 64⟩) =
      request.values.map Int64.toInt := Array.map_map
  have entry : (Gram.gramOf request.shape (request.values.map Int64.toBitVec))[
      first * request.rows + second]? =
        some (BitVec.ofInt 64 (Gram.Exact.gram ((request.values.map Int64.toBitVec).map
          (Gram.IntegerType.value ⟨true, 64⟩)) request.cols first second)) :=
    Gram.getElem?_gramOf_eq_word ⟨true, 64⟩ whole firstInside secondInside
  rw [gram, Array.getElem?_map, entry, values, Option.map_some, Int64.ofBitVec_ofInt]

theorem run_eq_ok {response : Bytes} :
    request.run = .ok response ↔
      request.rows * request.rows * wordSize ≤ maxAllocation ∧
        request.shape.Fits request.values.size (request.rows * request.rows) ∧
          encodeMatrix request.rows request.gram = response := by
  simp only [run, product, bind_eq_ok, Gram.product_eq_ok, Array.size_map,
    lift_aborting_eq_ok, writeMatrix_eq_ok]
  constructor
  · rintro ⟨_, ⟨_, ⟨storable, fits, rfl⟩, entries⟩, -, written⟩
    cases entries
    exact ⟨storable, fits, written⟩
  · rintro ⟨storable, fits, rfl⟩
    have reserved : (request.gram.size + 1) * wordSize ≤ maxAllocation := by
      rw [size_gram]
      exact answer_storable storable
    exact ⟨_, ⟨_, ⟨storable, fits, rfl⟩, rfl⟩, reserved, rfl⟩

structure Answerable (request : MatrixRequest) : Prop where
  storable : request.rows < 2 ^ 30
  filled : request.values.size = request.rows * request.cols

theorem run_of_answerable (answerable : request.Answerable)
    (bounded : request.values.size < addressSpace) :
    request.run = .ok (encodeMatrix request.rows request.gram) := by
  have fits : request.shape.Fits request.values.size (request.rows * request.rows) :=
    ⟨answerable.filled, rfl, answerable.filled ▸ bounded,
      square_lt_addressSpace answerable.storable⟩
  exact run_eq_ok.mpr ⟨square_storable.mpr answerable.storable, fits, rfl⟩

theorem answerable_of_run {response : Bytes} (ran : request.run = .ok response) :
    request.Answerable ∧ response = encodeMatrix request.rows request.gram := by
  obtain ⟨storable, fits, rfl⟩ := run_eq_ok.mp ran
  exact ⟨⟨square_storable.mp storable, fits.input⟩, rfl⟩

theorem length_answer (request : MatrixRequest) :
    (encodeMatrix request.rows request.gram).length =
      Workload.responseLength request.rows := by
  rw [length_encodeMatrix, size_gram, Workload.responseLength]
  ring

/-- The length of an answer that is given is the machine word foretold for it. -/
theorem responseSize_of_run {response : Bytes} (ran : request.run = .ok response) :
    (Workload.responseSize (.ofNat request.rows)).toNat = response.length := by
  obtain ⟨answerable, rfl⟩ := answerable_of_run ran
  have rows : (UInt64.ofNat request.rows).toNat = request.rows :=
    UInt64.toNat_ofNat_of_lt' (answerable.storable.trans (by decide))
  rw [toNat_responseSize, rows, Nat.mod_eq_of_lt (responseLength_lt answerable.storable),
    length_answer]

theorem decode_answer (request : MatrixRequest) (storable : request.rows < 2 ^ 30) :
    MatrixResponse.decode (encodeMatrix request.rows request.gram) =
      .ok ⟨request.rows, request.gram⟩ := by
  have whole : MatrixResponse.Whole ⟨request.rows, request.gram⟩ :=
    ⟨square_lt_addressSpace storable, request.size_gram⟩
  exact whole.decode_encode

theorem entry_gram (filled : request.values.size = request.rows * request.cols)
    {first second : Nat} (firstInside : first < request.rows)
    (secondInside : second < request.rows) :
    Gram.Exact.entry (request.gram.map Int64.toInt) request.rows first second =
      (Gram.Exact.gram (request.values.map Int64.toInt) request.cols first second).bmod
        (2 ^ 64) := by
  rw [Gram.Exact.entry, Array.getD_eq_getD_getElem?, Array.getElem?_map,
    getElem?_gram filled firstInside secondInside, Option.map_some, Option.getD_some,
    Int64.toInt_ofInt]
  rfl

/-- A request is answered exactly when storage for the answer exists and its entries fill its
shape. The answer then has the length foretold, and the reader finds in it the row count and, place
by place, the exact dot products reduced once to a signed word. -/
theorem run_answers (request : MatrixRequest)
    (fits : request.values.size ≤ maxAllocation / wordSize) :
    ((∃ response, request.run = .ok response) ↔
      request.rows < 2 ^ 30 ∧ request.values.size = request.rows * request.cols) ∧
    ∀ response, request.run = .ok response →
      (wordAt response 0).toInt = request.rows ∧
      response.length = Workload.responseLength request.rows ∧
      Workload.responseLength request.rows < addressSpace ∧
      ∃ answer, MatrixResponse.decode response = .ok answer ∧
        answer.rows = request.rows ∧
        answer.values.size = request.rows * request.rows ∧
        ∀ first < request.rows, ∀ second < request.rows,
          Gram.Exact.entry (answer.values.map Int64.toInt) request.rows first second =
            (Gram.Exact.gram (request.values.map Int64.toInt) request.cols first
              second).bmod (2 ^ 64) := by
  refine ⟨⟨?_, ?_⟩, ?_⟩
  · rintro ⟨response, ran⟩
    obtain ⟨answerable, -⟩ := answerable_of_run ran
    exact ⟨answerable.storable, answerable.filled⟩
  · rintro ⟨storable, filled⟩
    have bounded : request.values.size < addressSpace := fits.trans_lt (by decide)
    exact ⟨_, run_of_answerable ⟨storable, filled⟩ bounded⟩
  · intro response ran
    obtain ⟨⟨storable, filled⟩, rfl⟩ := answerable_of_run ran
    refine ⟨toInt_wordAt_encodeMatrix (storable.trans (by decide)) _, request.length_answer,
      responseLength_lt storable, _, request.decode_answer storable, rfl, request.size_gram, ?_⟩
    intro first firstInside second secondInside
    exact entry_gram filled firstInside secondInside

/-- One row whose dot product with itself passes the greatest word: the square of the greatest
signed word leaves one. -/
theorem run_answers_wrapped :
    #[(0x7fffffffffffffff : Int64), 2].size ≤ maxAllocation / wordSize ∧
      ∃ response answer,
        run ⟨1, 2, #[0x7fffffffffffffff, 2]⟩ = .ok response ∧ response.length = 16 ∧
          MatrixResponse.decode response = .ok answer ∧ answer.rows = 1 ∧
            Gram.Exact.entry (answer.values.map Int64.toInt) 1 0 0 = 5 := by
  obtain ⟨answers, reads⟩ :=
    run_answers ⟨1, 2, #[0x7fffffffffffffff, 2]⟩ (by decide)
  obtain ⟨response, ran⟩ := answers.mpr ⟨by decide, by decide⟩
  obtain ⟨-, length, -, answer, decoded, rows, -, entries⟩ := reads response ran
  refine ⟨by decide, response, answer, ran, length, decoded, rows, ?_⟩
  rw [entries 0 (by decide) 0 (by decide)]
  decide +kernel

end MatrixRequest

end ComputeBench
