import ComputeBench.Bytes.Blocks
import ComputeBench.Fault

namespace ComputeBench

variable {α : Type}

def checkedLength (first second : Nat) : Except Error Nat :=
  if first * second < addressSpace then .ok (first * second)
  else .error .dimensionOverflow

def requireLength (buffer : Buffer) (expected got : Nat) : Except Error Unit :=
  if expected = got then .ok () else .error (.lengthMismatch buffer expected got)

theorem checkedLength_eq_ok {first second length : Nat} :
    checkedLength first second = .ok length ↔
      first * second < addressSpace ∧ first * second = length := by
  unfold checkedLength
  split <;> simp [*]

theorem requireLength_eq_ok {buffer : Buffer} {expected got : Nat} {passed : Unit} :
    requireLength buffer expected got = .ok passed ↔ expected = got := by
  unfold requireLength
  split <;> simp [*]

def allocate (bytes : Nat) : Except Abort Unit :=
  if bytes ≤ maxAllocation then .ok () else .error .capacityOverflow

theorem allocate_eq_ok {bytes : Nat} {passed : Unit} :
    allocate bytes = .ok passed ↔ bytes ≤ maxAllocation := by
  unfold allocate
  split <;> simp [*]

def itemAt (buffer : Array α) (index : Nat) : Except Abort α :=
  match buffer[index]? with
  | some item => .ok item
  | none => .error (.indexOutOfRange buffer.size index)

def stretch (buffer : Array α) (start stop : Nat) : Except Abort (List α) :=
  if stop ≤ buffer.size then .ok (buffer.extract start stop).toList
  else .error (.rangeOutOfRange buffer.size stop)

def requireChunk (size : Nat) : Except Abort Unit :=
  if size = 0 then .error .zeroChunk else .ok ()

def chunksOf (size : Nat) (buffer : Array α) : Except Abort (List (List α)) := do
  requireChunk size
  return blocks size (buffer.size / size) buffer.toList

theorem requireChunk_of_pos {size : Nat} (positive : 0 < size) : requireChunk size = .ok () :=
  if_neg (Nat.ne_of_gt positive)

theorem chunksOf_of_pos {size : Nat} (positive : 0 < size) (buffer : Array α) :
    chunksOf size buffer = .ok (blocks size (buffer.size / size) buffer.toList) := by
  rw [chunksOf, requireChunk_of_pos positive, ok_bind]
  rfl

/-- What would fall past the end of the buffer is dropped. -/
def overwrite (buffer : Array α) (place : Nat) : List α → Array α
  | [] => buffer
  | item :: rest => overwrite (buffer.setIfInBounds place item) (place + 1) rest

end ComputeBench
