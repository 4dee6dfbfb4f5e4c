import ComputeBench.Record

namespace ComputeBench

structure Cursor where
  record : UInt64
  lane : Nat
  count : UInt64
  deriving DecidableEq

namespace Cursor

def start (count : UInt64) : Except Error Cursor :=
  if count = 0 then .error .zeroCount else .ok ⟨0, 0, count⟩

/-- The size of a backward jump; 128 for the least sample, which has no negative. -/
def magnitude (jump : Int8) : UInt64 := (-jump).toUInt8.toUInt64

def wrap (index count : UInt64) (jump : Int8) : UInt64 :=
  if 0 ≤ jump then (index + jump.toUInt8.toUInt64) % count
  else (index + (count - magnitude jump % count)) % count

def advance (cursor : Cursor) (current : Record) : Except Abort Cursor := do
  let jump ← current.get cursor.lane
  return {
    record := wrap cursor.record cursor.count jump
    lane := (cursor.lane + 1) % recordSize
    count := cursor.count }

def drive (cursor : Cursor) : List Record → Except Abort (List Cursor)
  | [] => .ok [cursor]
  | current :: rest => do
      let next ← cursor.advance current
      return cursor :: (← next.drive rest)

end Cursor

end ComputeBench
