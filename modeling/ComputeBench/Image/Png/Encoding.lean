import Mathlib
import ComputeBench.Image.Deflate.Zlib
import ComputeBench.Image.Png.Layout

/-! What an encoder may write: any filter on any line, any compression, any cut into chunks. -/

namespace ComputeBench

inductive Zlib.Compresses (data : Bytes) : Bytes → Prop where
  | stream (method flags : UInt8) (deflated : Bytes)
      (known : goodHeader method.toNat flags.toNat = true)
      (inflates : ∀ rest, Deflate.inflate (deflated ++ rest) = .ok (data, rest)) :
      Compresses data (method :: flags :: (deflated ++ BigEndian.encode 4 (adler data)))

namespace Png

inductive Filter where
  | none
  | sub
  | up
  | average
  | paeth
  deriving DecidableEq, Repr

namespace Filter

def number : Filter → UInt8
  | .none => 0
  | .sub => 1
  | .up => 2
  | .average => 3
  | .paeth => 4

def distance (left above corner candidate : UInt8) : Nat :=
  ((left.toNat : Int) + above.toNat - corner.toNat - candidate.toNat).natAbs

/-- What a byte is taken to be from the byte one pixel to the left, the byte above it and the byte
left of that. The last filter takes the first of the three that is nearest to
`left + above - corner`. -/
def prediction (filter : Filter) (left above corner : UInt8) : UInt8 :=
  match filter with
  | .none => 0
  | .sub => left
  | .up => above
  | .average => .ofNat ((left.toNat + above.toNat) / 2)
  | .paeth =>
      ([left, above, corner].argmin (distance left above corner)).getD 0

end Filter

def toLeft (pixelSize : Nat) (line : Bytes) (place : Nat) : UInt8 :=
  if place < pixelSize then 0 else line.getD (place - pixelSize) 0

def Filter.apply (filter : Filter) (pixelSize : Nat) (above line : Bytes) : Bytes :=
  line.mapIdx fun place byte =>
    byte - filter.prediction (toLeft pixelSize line place) (above.getD place 0)
      (toLeft pixelSize above place)

inductive Filtered (pixelSize : Nat) : Bytes → List Bytes → List Bytes → Prop where
  | done (above : Bytes) : Filtered pixelSize above [] []
  | line (filter : Filter) (above line : Bytes) (lines stored : List Bytes)
      (below : Filtered pixelSize line lines stored) :
      Filtered pixelSize above (line :: lines)
        ((filter.number :: filter.apply pixelSize above line) :: stored)

inductive Encodes (header : Header) (pixels : Bytes) : Bytes → Prop where
  | file (stored parts : List Bytes)
      (filtered : Filtered header.channels.count []
        (blocks header.lineSize header.height pixels) stored)
      (compressed : Zlib.Compresses stored.flatten parts.flatten)
      (nonempty : parts ≠ [])
      (short : ∀ part ∈ parts, part.length < 2 ^ 31) :
      Encodes header pixels (assemble header parts)

end Png

end ComputeBench
