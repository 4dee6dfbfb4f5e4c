import ComputeBench.Image.Deflate.Zlib
import ComputeBench.Image.Png.Filter
import ComputeBench.Image.Png.Layout

namespace ComputeBench.Png

structure File where
  chunks : List Chunk
  header : Header
  image : Image

def readSignature (bytes : Bytes) : Except Error Bytes :=
  if bytes.take signature.length = signature then
    .ok (bytes.drop signature.length)
  else .error .signature

/-- Each chunk takes at least twelve bytes; the end chunk is empty and last. -/
def readChunks : Nat → Bytes → Except Error (List Chunk)
  | 0, _ => .error .unexpectedEnd
  | fuel + 1, bytes => do
      let (chunk, rest) ← Chunk.read bytes
      if chunk.name = endName then
        if chunk.data.isEmpty ∧ rest.isEmpty then return [chunk]
        else throw .chunkOrder
      else
        return chunk :: (← readChunks fuel rest)

def readHeader : Bytes → Except Error Header
  | [w0, w1, w2, w3, h0, h1, h2, h3, depth, color, compression, filter, interlace] => do
      let channels ← match color with
        | 2 => pure .rgb
        | 6 => pure .rgba
        | _ => throw .header
      let width := BigEndian.decode [w0, w1, w2, w3]
      let height := BigEndian.decode [h0, h1, h2, h3]
      if width = 0 ∨ height = 0 ∨ maxDimension < width ∨ maxDimension < height then
        throw .header
      if depth ≠ 8 ∨ compression ≠ 0 ∨ filter ≠ 0 ∨ 1 < interlace then
        throw .header
      return ⟨width, height, depth.toNat, channels, interlace = 1⟩
  | _ => .error .header

/-- A chunk whose name starts with a capital may not be skipped. -/
def Chunk.isCritical (chunk : Chunk) : Bool :=
  !(chunk.name.headD 0).toNat.testBit 5

/-- The data chunks stand together, and nothing but the end chunk among the rest is critical. -/
def imageData (chunks : List Chunk) : Except Error Bytes :=
  let isData : Chunk → Bool := fun chunk => chunk.name == dataName
  let chunks := chunks.dropWhile fun chunk => !isData chunk && !chunk.isCritical
  let data := chunks.takeWhile isData
  let rest := chunks.dropWhile isData
  if data.isEmpty || rest.any fun chunk => chunk.isCritical && chunk.name != endName then
    .error .chunkOrder
  else .ok (data.flatMap Chunk.data)

def readPixels (header : Header) (data : Bytes) : Except Error (List Pixel) := do
  if data.length ≠ header.height * (1 + header.lineSize) then throw .dataLength
  let lines := blocks (1 + header.lineSize) header.height data
  match restoreLines header.channels.count [] lines #[] with
  | none => throw .filter
  | some lines =>
      return lines.toList.flatMap (Image.pixelsOf header.channels header.width)

def read (bytes : Bytes) : Except Error File := do
  let body ← readSignature bytes
  match ← readChunks body.length body with
  | [] => throw .chunkOrder
  | first :: rest =>
      if first.name ≠ headerName then throw .chunkOrder
      let header ← readHeader first.data
      if header.interlaced then throw .interlaced
      let compressed ← imageData rest
      let data ← (Zlib.unwrap compressed).mapError .compression
      let pixels ← readPixels header data
      return ⟨first :: rest, header,
        ⟨header.width, header.height, header.channels, pixels⟩⟩

end ComputeBench.Png
