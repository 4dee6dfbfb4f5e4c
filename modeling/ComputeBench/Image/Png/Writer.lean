import ComputeBench.Image.Deflate.Zlib
import ComputeBench.Image.Png.Layout

namespace ComputeBench.Png

inductive Refusal where
  | zeroWidth
  | zeroHeight
  | tooLarge
  | dataLength (expected got : Nat)
  | dataTwice
  | noData
  deriving DecidableEq, Repr

def Refusal.message : Refusal → String
  | .zeroWidth => "Zero width not allowed"
  | .zeroHeight => "Zero height not allowed"
  | .tooLarge => "Image dimensions too large"
  | .dataLength expected got =>
      "wrong data size, expected " ++ toString expected ++ " got " ++ toString got
  | .dataTwice => "all the frames have been already written"
  | .noData => "there are still frames to be written"

def scanlines (header : Header) (pixels : Bytes) : Bytes :=
  (blocks header.lineSize header.height pixels).flatMap (0 :: ·)

def maxPart : Nat := 0x7fffffff

def cut : Nat → Bytes → List Bytes
  | 0, data => [data]
  | full + 1, data => data.take maxPart :: cut full (data.drop maxPart)

def parts (data : Bytes) : List Bytes :=
  cut ((data.length - 1) / maxPart) data

structure Writer where
  header : Header
  pixels : Option Bytes

namespace Writer

def start (header : Header) : Except Refusal Writer :=
  if header.width = 0 then .error .zeroWidth
  else if header.height = 0 then .error .zeroHeight
  else if maxDimension < header.width ∨ maxDimension < header.height then
    .error .tooLarge
  else .ok ⟨header, none⟩

def put (writer : Writer) (pixels : Bytes) : Except Refusal Writer :=
  match writer.pixels with
  | some _ => .error .dataTwice
  | none =>
      if pixels.length ≠ writer.header.dataSize then
        .error (.dataLength writer.header.dataSize pixels.length)
      else .ok ⟨writer.header, some pixels⟩

def finish (writer : Writer) : Except Refusal Bytes :=
  match writer.pixels with
  | none => .error .noData
  | some pixels =>
      .ok (assemble writer.header
        (parts (Zlib.wrap (scanlines writer.header pixels))))

end Writer

end ComputeBench.Png
