namespace ComputeBench.Gram

structure IntegerType where
  signed : Bool
  width : Nat
  deriving DecidableEq, Repr

namespace IntegerType

def all : List IntegerType :=
  [⟨true, 8⟩, ⟨true, 16⟩, ⟨true, 32⟩, ⟨true, 64⟩, ⟨true, 128⟩,
    ⟨false, 8⟩, ⟨false, 16⟩, ⟨false, 32⟩, ⟨false, 64⟩, ⟨false, 128⟩]

def word (type : IntegerType) (value : Int) : BitVec type.width :=
  BitVec.ofInt type.width value

def value (type : IntegerType) (word : BitVec type.width) : Int :=
  if type.signed then word.toInt else word.toNat

end IntegerType

end ComputeBench.Gram
