import ComputeBench.Record

namespace ComputeBench

structure Tally where
  sum : Int64
  least : Int64
  greatest : Int64
  deriving DecidableEq

namespace Tally

def leastOfNone : Int64 := 256

def greatestOfNone : Int64 := -256

def empty : Tally := ⟨0, leastOfNone, greatestOfNone⟩

def isEmpty (tally : Tally) : Bool :=
  tally.least == leastOfNone && tally.greatest == greatestOfNone

def add (tally : Tally) (sample : Int64) : Tally where
  sum := tally.sum + sample
  least := if sample < tally.least then sample else tally.least
  greatest := if tally.greatest < sample then sample else tally.greatest

def addRecord (tally : Tally) (record : Record) : Tally :=
  record.samples.foldl add tally

def encode (tally : Tally) : Bytes :=
  encodeSigned tally.sum ++ encodeSigned tally.least ++
    encodeSigned tally.greatest

def encodedSize : Nat := 3 * wordSize

def decode (bytes : Bytes) : Except Error Tally :=
  if bytes.length = encodedSize then
    .ok {
      sum := decodeSigned (bytes.take wordSize)
      least := decodeSigned ((bytes.drop wordSize).take wordSize)
      greatest := decodeSigned (bytes.drop (2 * wordSize)) }
  else .error (.truncated encodedSize bytes.length)

end Tally

end ComputeBench
