import ComputeBench.Gram.Session

namespace ComputeBench.Gram

variable {w : Nat}

abbrev Writing (w : Nat) := EStateM Fault (Array (BitVec w))

instance : MonadLift (Except Fault) (Writing w) where
  monadLift
    | .ok value => fun output => .ok value output
    | .error fault => fun output => .error fault output

def writeEntry (shape : Shape) (input : Array (BitVec w)) (own : List (BitVec w))
    (row column : Nat) : Writing w Unit := do
  let other ← inputRow shape input column
  let output ← get
  let entry ← itemAt output (row * shape.rows + column)
  set (output.setIfInBounds (row * shape.rows + column) (entry + dot own other))

def writeRow (shape : Shape) (input : Array (BitVec w)) (row : Nat) : Writing w Unit := do
  let own ← inputRow shape input row
  forM (List.range shape.rows) (writeEntry shape input own row)

namespace Call

def schedule (call : Call w) : Schedule :=
  match call.method with
  | .sequential => .inOrder
  | .parallel schedule => if call.shape.rows < minParallelRows then .inOrder else schedule

def write (call : Call w) : Writing w Unit := do
  call.shape.check call.input.size (← get).size
  forM (call.schedule.order call.shape.rows) (writeRow call.shape call.input)

end Call

def Reply.ofResult : EStateM.Result Fault (Array (BitVec w)) Unit → Reply w
  | .ok passed output => ⟨.ok passed, output⟩
  | .error fault output => ⟨.error fault, output⟩

end ComputeBench.Gram
