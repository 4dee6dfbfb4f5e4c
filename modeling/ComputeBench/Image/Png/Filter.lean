import ComputeBench.Bytes.Word

namespace ComputeBench.Png

def average (left above : UInt8) : UInt8 :=
  .ofNat ((left.toNat + above.toNat) / 2)

/-- Whichever of the three is nearest to `left + above - corner`, in this order. -/
def paeth (left above corner : UInt8) : UInt8 :=
  let target : Int := left.toNat + above.toNat - corner.toNat
  let fromLeft := (target - left.toNat).natAbs
  let fromAbove := (target - above.toNat).natAbs
  let fromCorner := (target - corner.toNat).natAbs
  if fromLeft ≤ fromAbove ∧ fromLeft ≤ fromCorner then left
  else if fromAbove ≤ fromCorner then above
  else corner

def predict (filter : Nat) (left above corner : UInt8) : Option UInt8 :=
  match filter with
  | 0 => some 0
  | 1 => some left
  | 2 => some above
  | 3 => some (average left above)
  | 4 => some (paeth left above corner)
  | _ => none

/-- `lefts` holds the restored bytes of the pixel to the left and `corners` the bytes above them,
oldest first; `done` is the line so far, last byte first. -/
def restore (filter : Nat) :
    Bytes → Bytes → Bytes → Bytes → Bytes → Option Bytes
  | [], _, _, _, done => some done.reverse
  | byte :: line, aboves, lefts, corners, done =>
      let above := aboves.headD 0
      match predict filter (lefts.headD 0) above (corners.headD 0) with
      | none => none
      | some prediction =>
          let byte := byte + prediction
          restore filter line aboves.tail (lefts.tail ++ [byte])
            (corners.tail ++ [above]) (byte :: done)

def restoreLine (pixelSize : Nat) (above : Bytes) : Bytes → Option Bytes
  | [] => none
  | filter :: bytes =>
      let edge := List.replicate pixelSize 0
      restore filter.toNat bytes above edge edge []

def restoreLines (pixelSize : Nat) :
    Bytes → List Bytes → Array Bytes → Option (Array Bytes)
  | _, [], done => some done
  | above, line :: lines, done =>
      match restoreLine pixelSize above line with
      | none => none
      | some line => restoreLines pixelSize line lines (done.push line)

end ComputeBench.Png
