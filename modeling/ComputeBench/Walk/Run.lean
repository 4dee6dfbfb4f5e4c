import ComputeBench.Walk.Cursor
import ComputeBench.Walk.Tally

namespace ComputeBench

structure Walker where
  cursor : Cursor
  tally : Tally
  deriving DecidableEq

namespace Walker

def step (records : Array Record) (walker : Walker) : Except Abort Walker := do
  let current ← itemAt records walker.cursor.record.toNat
  return {
    cursor := ← walker.cursor.advance current
    tally := walker.tally.addRecord current }

def run (records : Array Record) : Nat → Walker → Except Abort Walker
  | 0, walker => .ok walker
  | steps + 1, walker => do run records steps (← walker.step records)

end Walker

def Cursor.follow (records : Array Record) :
    Nat → Cursor → Except Abort (List Cursor)
  | 0, cursor => .ok [cursor]
  | steps + 1, cursor => do
      let next ← cursor.advance (← itemAt records cursor.record.toNat)
      return cursor :: (← follow records steps next)

def walk (iterations count : UInt64) (records : Array Record) :
    Except Fault Tally := do
  let cursor ← Cursor.start count
  requireLength .records count.toNat records.size
  let walker ← Walker.run records iterations.toNat ⟨cursor, .empty⟩
  return walker.tally

end ComputeBench
