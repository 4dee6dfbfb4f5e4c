import Mathlib
import ComputeBench.Proofs.Gram.Exactness

namespace ComputeBench.Gram

variable {w : Nat} {shape : Shape} {input result : Array (BitVec w)}

def gramOf (shape : Shape) (input : Array (BitVec w)) : Array (BitVec w) :=
  accumulated shape input (Array.replicate (shape.rows * shape.rows) 0)

@[simp] theorem size_gramOf (shape : Shape) (input : Array (BitVec w)) :
    (gramOf shape input).size = shape.rows * shape.rows := by
  rw [gramOf, size_accumulated, Array.size_replicate]

theorem getElem?_gramOf {first second : Nat} (firstInside : first < shape.rows)
    (secondInside : second < shape.rows) :
    (gramOf shape input)[first * shape.rows + second]? =
      some (contribution shape input first second) := by
  have zeros : (Array.replicate (shape.rows * shape.rows) (0 : BitVec w)).size =
      shape.rows * shape.rows := Array.size_replicate
  have inside := place_lt firstInside zeros secondInside
  rw [gramOf, getElem?_accumulated secondInside, Array.getElem?_eq_getElem inside,
    Array.getElem_replicate, Option.map_some]
  exact congrArg some (BitVec.zero_add _)

theorem getElem?_gramOf_eq_word (type : IntegerType) {input : Array (BitVec type.width)}
    (whole : input.size = shape.rows * shape.cols) {first second : Nat}
    (firstInside : first < shape.rows) (secondInside : second < shape.rows) :
    (gramOf shape input)[first * shape.rows + second]? =
      some (type.word (Exact.gram (input.map type.value) shape.cols first second)) := by
  rw [getElem?_gramOf firstInside secondInside,
    contribution_eq_word type whole firstInside secondInside]

theorem product_eq (shape : Shape) (input : Array (BitVec w)) :
    product shape input = do
      let entries ← checkedLength shape.rows shape.rows
      allocate (entries * (w / 8))
      shape.check input.size entries
      return accumulated shape input (Array.replicate entries 0) := by
  refine bind_congr fun entries => bind_congr fun _ => ?_
  rw [accumulate_eq, Array.size_replicate]
  cases shape.check input.size entries with
  | error error => rfl
  | ok passed => rfl

theorem product_eq_ok :
    product shape input = .ok result ↔
      shape.rows * shape.rows * (w / 8) ≤ maxAllocation ∧
        shape.Fits input.size (shape.rows * shape.rows) ∧ gramOf shape input = result := by
  simp only [product_eq, bind_eq_ok, lift_refusing_eq_ok, lift_aborting_eq_ok,
    checkedLength_eq_ok, allocate_eq_ok]
  constructor
  · rintro ⟨_, ⟨-, rfl⟩, _, storable, _, passed, same⟩
    exact ⟨storable, Shape.check_eq_ok.mp passed, Except.ok.inj same⟩
  · rintro ⟨storable, fits, rfl⟩
    exact ⟨_, ⟨fits.outputBound, rfl⟩, (), storable, (), Shape.check_eq_ok.mpr fits, rfl⟩

theorem product_of_unaddressable (past : addressSpace ≤ shape.rows * shape.rows)
    (input : Array (BitVec w)) :
    product shape input = .error (.refused .dimensionOverflow) := by
  have refused : checkedLength shape.rows shape.rows = .error .dimensionOverflow :=
    if_neg (not_lt.mpr past)
  simp only [product, refused, lift_refusing_error, error_bind]

theorem product_of_unstorable (addressable : shape.rows * shape.rows < addressSpace)
    (past : maxAllocation < shape.rows * shape.rows * (w / 8)) (input : Array (BitVec w)) :
    product shape input = .error (.aborted .capacityOverflow) := by
  have entries : checkedLength shape.rows shape.rows = .ok (shape.rows * shape.rows) :=
    if_pos addressable
  have aborted : allocate (shape.rows * shape.rows * (w / 8)) = .error .capacityOverflow :=
    if_neg (not_le.mpr past)
  simp only [product, entries, aborted, lift_refusing_ok, ok_bind, lift_aborting_error,
    error_bind]

theorem product_of_storable (addressable : shape.rows * shape.rows < addressSpace)
    (storable : shape.rows * shape.rows * (w / 8) ≤ maxAllocation) (input : Array (BitVec w)) :
    product shape input =
      accumulate shape input (Array.replicate (shape.rows * shape.rows) 0) := by
  have entries : checkedLength shape.rows shape.rows = .ok (shape.rows * shape.rows) :=
    if_pos addressable
  have allocated : allocate (shape.rows * shape.rows * (w / 8)) = .ok () := if_pos storable
  rw [product_eq, entries, lift_refusing_ok, ok_bind, allocated, lift_aborting_ok, ok_bind,
    accumulate_eq, Array.size_replicate]

end ComputeBench.Gram
