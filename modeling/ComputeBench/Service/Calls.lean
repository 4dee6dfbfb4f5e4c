import ComputeBench.Gram.Session
import ComputeBench.Image.Recode
import ComputeBench.Journal
import ComputeBench.Message.MatrixResponse
import ComputeBench.Message.WalkRequest
import ComputeBench.Message.MatrixRequest

namespace ComputeBench.Service

def refusing {α : Type} (result : Except Error α) : Except Fault α :=
  result.mapError .refused

def walkEntry (iterations count : UInt64) : Entry :=
  ⟨.trace, "walk: iterations=" ++ toString iterations.toNat ++
    ", max_index=" ++ toString count.toNat⟩

def walk (iterations count : UInt64) (records : Array Record) : Traced Tally :=
  .noted (fun _ => walkEntry iterations count)
    (ComputeBench.walk iterations count records)

def walkRequestEntry (request : WalkRequest) : Entry :=
  ⟨.debug, "walk request: iterations=" ++ toString request.iterations.toNat ++
    ", records=" ++ toString request.records.size⟩

def decodeWalk (bytes : Bytes) : Traced WalkRequest :=
  .noted walkRequestEntry (refusing (WalkRequest.decode bytes))

def runWalk (request : WalkRequest) : Traced Tally :=
  .noted (fun _ => walkEntry request.iterations request.count) request.run

def dimensions (shape : Gram.Shape) : String :=
  "rows=" ++ toString shape.rows ++ ", cols=" ++ toString shape.cols

def productEntry (shape : Gram.Shape) : Entry :=
  ⟨.trace, "symmetric_product_into: " ++ dimensions shape⟩

def callEntry {w : Nat} (workers : Nat) (call : Gram.Call w) : Entry :=
  match call.method with
  | .sequential => productEntry call.shape
  | .parallel _ =>
      if call.shape.rows < Gram.minParallelRows then productEntry call.shape
      else ⟨.trace, "par_symmetric_product_into: " ++ dimensions call.shape ++
        ", threads=" ++ toString workers⟩

def product {w : Nat} (shape : Gram.Shape) (input : Array (BitVec w)) :
    Traced (Array (BitVec w)) :=
  .noted (fun _ => productEntry shape) (Gram.product shape input)

def productSession {w : Nat} (workers : Nat) (calls : List (Gram.Call w))
    (output : Array (BitVec w)) : Traced (List (Gram.Reply w)) :=
  let replies := Gram.replies calls output
  let entries := (calls.zip replies).filterMap fun (call, reply) =>
    match reply.outcome with
    | .ok _ => some (callEntry workers call)
    | .error _ => none
  ⟨.ok replies, entries⟩

def matrixEntry (request : MatrixRequest) : Entry :=
  ⟨.debug, "matrix request: " ++ dimensions request.shape⟩

def decodeMatrix (bytes : Bytes) : Traced MatrixRequest :=
  .noted matrixEntry (refusing (MatrixRequest.decode bytes))

def matrixProduct (request : MatrixRequest) : Traced (Array Int64) :=
  .noted (fun _ => productEntry request.shape) request.product

def runMatrix (request : MatrixRequest) : Traced Bytes :=
  .noted (fun _ => productEntry request.shape) request.run

def recodeEntry (header : Qoi.Header) (bytes : Bytes) : Entry :=
  ⟨.debug, "compress: " ++ toString header.width ++ "x" ++ toString header.height ++ " " ++
    header.channels.name ++ ", " ++ toString bytes.length ++ " input bytes"⟩

def recodeBy (codec : Image.Codec) (bytes : Bytes) : Traced Bytes := do
  let (header, pixels) ← Traced.noted (fun (header, _) => recodeEntry header bytes)
    (refusing (codec.decodeImage bytes))
  refusing (codec.encodeImage header pixels)

def recode (bytes : Bytes) : Traced Bytes := recodeBy .plain bytes

end ComputeBench.Service
