import ComputeBench.Record

namespace ComputeBench.Walk

def jump (records : Array Record) (index step : Nat) : Int :=
  match records[index]? with
  | some record =>
      (record.values.get ⟨step % recordSize, Nat.mod_lt _ (by decide)⟩).toInt
  | none => 0

def position (records : Array Record) : Nat → Nat
  | 0 => 0
  | step + 1 =>
      ((position records step + jump records (position records step) step) %
        records.size).toNat

def samplesAt (records : Array Record) (index : Nat) : List Int :=
  match records[index]? with
  | some record => record.values.toList.map Int8.toInt
  | none => []

def samples (records : Array Record) (iterations : Nat) : List Int :=
  (List.range iterations).flatMap fun step =>
    samplesAt records (position records step)

end ComputeBench.Walk
