import Mathlib
import ComputeBench.Gram.Element
import ComputeBench.Gram.Product

namespace ComputeBench.Gram

def IntegerType.represent (type : IntegerType) (exact : Int) : Int :=
  if type.signed then exact.bmod (2 ^ type.width) else exact % 2 ^ type.width

theorem IntegerType.value_word (type : IntegerType) (exact : Int) :
    type.value (type.word exact) = type.represent exact := by
  unfold IntegerType.value IntegerType.word IntegerType.represent
  split
  · exact BitVec.toInt_ofInt exact
  · have positive : (0 : Int) < 2 ^ type.width := by positivity
    rw [BitVec.toNat_ofInt]
    push_cast
    exact Int.toNat_of_nonneg (Int.emod_nonneg _ positive.ne')

theorem dot_eq_sum {w : Nat} (first second : List (BitVec w)) :
    dot first second = (List.zipWith (· * ·) first second).sum := rfl

namespace Exact

def entry (matrix : Array Int) (cols row column : Nat) : Int :=
  matrix.getD (row * cols + column) 0

def gram (matrix : Array Int) (cols first second : Nat) : Int :=
  ((List.range cols).map fun column =>
    entry matrix cols first column * entry matrix cols second column).sum

end Exact

end ComputeBench.Gram
