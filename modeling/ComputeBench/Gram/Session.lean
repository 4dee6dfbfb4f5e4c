import ComputeBench.Gram.Parallel

namespace ComputeBench.Gram

variable {w : Nat}

inductive Method where
  | sequential
  | parallel (schedule : Schedule)

structure Call (w : Nat) where
  shape : Shape
  method : Method
  input : Array (BitVec w)

structure Reply (w : Nat) where
  outcome : Except Fault Unit
  output : Array (BitVec w)

namespace Call

def perform (call : Call w) (output : Array (BitVec w)) :
    Except Fault (Array (BitVec w)) :=
  match call.method with
  | .sequential => accumulate call.shape call.input output
  | .parallel schedule => accumulateParallel schedule call.shape call.input output

def reply (call : Call w) (output : Array (BitVec w)) : Reply w :=
  match call.perform output with
  | .ok result => ⟨.ok (), result⟩
  | .error fault => ⟨.error fault, output⟩

end Call

def replies : List (Call w) → Array (BitVec w) → List (Reply w)
  | [], _ => []
  | call :: rest, output =>
      let reply := call.reply output
      reply :: replies rest reply.output

def finalOutput (calls : List (Call w)) (output : Array (BitVec w)) :
    Array (BitVec w) :=
  calls.foldl (fun output call => (call.reply output).output) output

end ComputeBench.Gram
