import ComputeBench.Image.Deflate.Huffman

namespace ComputeBench.Deflate

def lengthRanges : Array (Nat × Nat) :=
  #[(3, 0), (4, 0), (5, 0), (6, 0), (7, 0), (8, 0), (9, 0), (10, 0), (11, 1), (13, 1),
    (15, 1), (17, 1), (19, 2), (23, 2), (27, 2), (31, 2), (35, 3), (43, 3), (51, 3),
    (59, 3), (67, 4), (83, 4), (99, 4), (115, 4), (131, 5), (163, 5), (195, 5), (227, 5),
    (258, 0)]

def distanceRanges : Array (Nat × Nat) :=
  #[(1, 0), (2, 0), (3, 0), (4, 0), (5, 1), (7, 1), (9, 2), (13, 2), (17, 3), (25, 3),
    (33, 4), (49, 4), (65, 5), (97, 5), (129, 6), (193, 6), (257, 7), (385, 7), (513, 8),
    (769, 8), (1025, 9), (1537, 9), (2049, 10), (3073, 10), (4097, 11), (6145, 11),
    (8193, 12), (12289, 12), (16385, 13), (24577, 13)]

def readRange (ranges : Array (Nat × Nat)) (symbol : Nat) (bits : Bits) :
    Except Error (Nat × Bits) :=
  match ranges[symbol]? with
  | none => .error .code
  | some (least, width) => do
      let (extra, bits) ← bits.number width
      return (least + extra, bits)

def repeatBack (distance : Nat) : Nat → Array UInt8 → Array UInt8
  | 0, done => done
  | length + 1, done =>
      repeatBack distance length (done.push (done.getD (done.size - distance) 0))

def endOfBlock : Nat := 256

/-- Each symbol takes at least one bit, so the bits at the start bound their number. -/
def readSymbols (literals distances : Huffman) :
    Nat → Bits → Array UInt8 → Except Error (Array UInt8 × Bits)
  | 0, _, _ => .error .unexpectedEnd
  | fuel + 1, bits, done => do
      let (symbol, bits) ← literals.symbol bits
      if symbol < endOfBlock then
        readSymbols literals distances fuel bits (done.push (.ofNat symbol))
      else if symbol = endOfBlock then
        return (done, bits)
      else
        let (length, bits) ← readRange lengthRanges (symbol - (endOfBlock + 1)) bits
        let (symbol, bits) ← distances.symbol bits
        let (distance, bits) ← readRange distanceRanges symbol bits
        if done.size < distance then throw .distance
        readSymbols literals distances fuel bits (repeatBack distance length done)

def readStored (bits : Bits) (done : Array UInt8) :
    Except Error (Array UInt8 × Bits) :=
  match bits.aligned with
  | l0 :: l1 :: c0 :: c1 :: rest =>
      let length := LittleEndian.decode [l0, l1]
      if length + LittleEndian.decode [c0, c1] ≠ 65535 then .error .storedLength
      else if rest.length < length then .error .unexpectedEnd
      else .ok (done ++ rest.take length, .ofBytes (rest.drop length))
  | _ => .error .unexpectedEnd

def fixedLiterals : Huffman := .ofLengths
  (List.replicate 144 8 ++ List.replicate 112 9 ++ List.replicate 24 7 ++
    List.replicate 8 8)

def fixedDistances : Huffman := .ofLengths (List.replicate 30 5)

def lengthOrder : List Nat :=
  [16, 17, 18, 0, 8, 7, 9, 6, 10, 5, 11, 4, 12, 3, 13, 2, 14, 1, 15]

def readWidths : Nat → Bits → Except Error (List Nat × Bits)
  | 0, bits => .ok ([], bits)
  | count + 1, bits => do
      let (width, bits) ← bits.number 3
      let (widths, bits) ← readWidths count bits
      return (width :: widths, bits)

def placeWidths (widths : List Nat) : List Nat :=
  (List.range 19).map fun symbol =>
    ((lengthOrder.zip widths).lookup symbol).getD 0

def readLengths (code : Huffman) (total : Nat) :
    Nat → Bits → Array Nat → Except Error (Array Nat × Bits)
  | 0, bits, lengths =>
      if lengths.size = total then .ok (lengths, bits) else .error .codeLengths
  | fuel + 1, bits, lengths =>
      if lengths.size = total then .ok (lengths, bits)
      else if total < lengths.size then .error .codeLengths
      else do
        let (symbol, bits) ← code.symbol bits
        if symbol < 16 then
          readLengths code total fuel bits (lengths.push symbol)
        else if symbol = 16 then
          match lengths.back? with
          | none => throw .codeLengths
          | some last =>
              let (extra, bits) ← bits.number 2
              readLengths code total fuel bits (lengths ++ List.replicate (3 + extra) last)
        else if symbol = 17 then
          let (extra, bits) ← bits.number 3
          readLengths code total fuel bits (lengths ++ List.replicate (3 + extra) 0)
        else
          let (extra, bits) ← bits.number 7
          readLengths code total fuel bits (lengths ++ List.replicate (11 + extra) 0)

def readCodes (bits : Bits) : Except Error (Huffman × Huffman × Bits) := do
  let (literalCount, bits) ← bits.number 5
  let (distanceCount, bits) ← bits.number 5
  let (widthCount, bits) ← bits.number 4
  let literalCount := 257 + literalCount
  let distanceCount := 1 + distanceCount
  if 286 < literalCount ∨ 30 < distanceCount then throw .codeLengths
  let (widths, bits) ← readWidths (4 + widthCount) bits
  let lengthCode := Huffman.ofLengths (placeWidths widths)
  if !lengthCode.isComplete then throw .codeLengths
  let total := literalCount + distanceCount
  let (lengths, bits) ← readLengths lengthCode total total bits #[]
  let literals := Huffman.ofLengths (lengths.toList.take literalCount)
  let distances := Huffman.ofLengths (lengths.toList.drop literalCount)
  if lengths.getD endOfBlock 0 = 0 then throw .codeLengths
  if !(literals.isComplete || literals.isTiny) then throw .codeLengths
  if !(distances.isComplete || distances.isTiny) then throw .codeLengths
  return (literals, distances, bits)

def readBlock (type : Nat) (bits : Bits) (done : Array UInt8) :
    Except Error (Array UInt8 × Bits) :=
  match type with
  | 0 => readStored bits done
  | 1 => readSymbols fixedLiterals fixedDistances (bits.size + 1) bits done
  | 2 => do
      let (literals, distances, bits) ← readCodes bits
      readSymbols literals distances (bits.size + 1) bits done
  | _ => .error .blockType

/-- Each block takes at least three bits. -/
def readBlocks : Nat → Bits → Array UInt8 → Except Error (Array UInt8 × Bits)
  | 0, _, _ => .error .unexpectedEnd
  | fuel + 1, bits, done => do
      let (last, bits) ← bits.next
      let (type, bits) ← bits.number 2
      let (done, bits) ← readBlock type bits done
      if last then return (done, bits)
      else readBlocks fuel bits done

/-- The data, and what follows the compressed stream. -/
def inflate (bytes : Bytes) : Except Error (Bytes × Bytes) := do
  let bits := Bits.ofBytes bytes
  let (done, bits) ← readBlocks bits.size bits #[]
  return (done.toList, bits.aligned)

end ComputeBench.Deflate
