import ComputeBench.Bytes.Word
import ComputeBench.Capacity

namespace ComputeBench

def recordSize : Nat := 16

theorem recordSize_pos : 0 < recordSize := by decide

structure Record where
  values : Vector Int8 recordSize
  deriving DecidableEq

namespace Record

def zero : Record := ⟨Vector.replicate recordSize 0⟩

def sample : Record :=
  ⟨#v[-53, 32, 60, -29, 113, 109, -113, 89, -112, 0, -114, -120, 84, -50, 94, 98]⟩

def get (record : Record) (lane : Nat) : Except Abort Int8 :=
  itemAt record.values.toArray lane

def samples (record : Record) : List Int64 :=
  record.values.toList.map Int8.toInt64

def sum (record : Record) : Int64 := record.samples.sum

def encode (record : Record) : Bytes :=
  record.values.toList.map Int8.toUInt8

def ofBlock (block : Bytes) : Record :=
  ⟨Vector.ofFn fun lane => (block.getD lane 0).toInt8⟩

end Record

def encodeRecords (records : Array Record) : Bytes :=
  records.toList.flatMap Record.encode

def decodeRecords (bytes : Bytes) : Except Error (Array Record) :=
  if bytes.length % recordSize = 0 then
    .ok ((blocks recordSize (bytes.length / recordSize) bytes).map
      Record.ofBlock).toArray
  else .error (.partialRecord bytes.length)

end ComputeBench
