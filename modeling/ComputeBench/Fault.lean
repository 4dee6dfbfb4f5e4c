namespace ComputeBench

def addressSpace : Nat := 0x10000000000000000

def maxAllocation : Nat := 0x7fffffffffffffff

inductive Buffer where
  | records
  | inputMatrix
  | outputMatrix
  | matrixResponse
  deriving DecidableEq, Repr

def Buffer.name : Buffer → String
  | .records => "records"
  | .inputMatrix => "input matrix"
  | .outputMatrix => "output matrix"
  | .matrixResponse => "matrix response"

inductive Error where
  | zeroCount
  | lengthMismatch (buffer : Buffer) (expected got : Nat)
  | dimensionOverflow
  | partialRecord (length : Nat)
  | noRecords
  | truncated (expected got : Nat)
  | partialWord (length : Nat)
  | invalidRows (rows : Int64)
  | undecodable (reason : String)
  | unencodable (reason : String)
  deriving DecidableEq, Repr

def Error.message : Error → String
  | .zeroCount => "max_index must be at least 1"
  | .lengthMismatch buffer expected got =>
      buffer.name ++ " length mismatch: expected " ++ toString expected ++
        ", got " ++ toString got
  | .dimensionOverflow => "dimension overflow while computing buffer length"
  | .partialRecord length =>
      "record buffer of " ++ toString length ++ " bytes is not a multiple of 16"
  | .noRecords => "walk request contains no records"
  | .truncated expected got =>
      "truncated buffer: expected " ++ toString expected ++ " bytes, got " ++
        toString got
  | .partialWord length =>
      "matrix body of " ++ toString length ++ " bytes is not a multiple of 8"
  | .invalidRows rows => "invalid row count " ++ toString rows.toInt
  | .undecodable reason => "image decode failed: " ++ reason
  | .unencodable reason => "image encode failed: " ++ reason

inductive Abort where
  | capacityOverflow
  | indexOutOfRange (length index : Nat)
  | rangeOutOfRange (length stop : Nat)
  | zeroChunk
  deriving DecidableEq, Repr

def Abort.message : Abort → String
  | .capacityOverflow => "capacity overflow"
  | .indexOutOfRange length index =>
      "index out of bounds: the len is " ++ toString length ++
        " but the index is " ++ toString index
  | .rangeOutOfRange length stop =>
      "range out of bounds: the len is " ++ toString length ++
        " but the end is " ++ toString stop
  | .zeroChunk => "chunk size must be non-zero"

inductive Fault where
  | refused (error : Error)
  | aborted (abort : Abort)
  deriving DecidableEq, Repr

def Fault.message : Fault → String
  | .refused error => error.message
  | .aborted abort => abort.message

instance : MonadLift (Except Error) (Except Fault) where
  monadLift := Except.mapError .refused

instance : MonadLift (Except Abort) (Except Fault) where
  monadLift := Except.mapError .aborted

variable {ε α β : Type}

@[simp] theorem ok_bind (value : α) (next : α → Except ε β) :
    (Except.ok value >>= next) = next value := rfl

@[simp] theorem error_bind (failure : ε) (next : α → Except ε β) :
    (Except.error failure >>= next) = .error failure := rfl

theorem bind_eq_ok {step : Except ε α} {next : α → Except ε β} {result : β} :
    (step >>= next) = .ok result ↔ ∃ value, step = .ok value ∧ next value = .ok result := by
  cases step <;> simp

@[simp] theorem lift_refusing_ok (value : α) :
    (liftM (Except.ok value : Except Error α) : Except Fault α) = .ok value := rfl

@[simp] theorem lift_refusing_error (error : Error) :
    (liftM (Except.error error : Except Error α) : Except Fault α) =
      .error (.refused error) := rfl

@[simp] theorem lift_aborting_ok (value : α) :
    (liftM (Except.ok value : Except Abort α) : Except Fault α) = .ok value := rfl

@[simp] theorem lift_aborting_error (abort : Abort) :
    (liftM (Except.error abort : Except Abort α) : Except Fault α) =
      .error (.aborted abort) := rfl

theorem lift_refusing_eq_ok {step : Except Error α} {value : α} :
    (liftM step : Except Fault α) = .ok value ↔ step = .ok value := by
  cases step <;> simp

theorem lift_aborting_eq_ok {step : Except Abort α} {value : α} :
    (liftM step : Except Fault α) = .ok value ↔ step = .ok value := by
  cases step <;> simp

end ComputeBench
