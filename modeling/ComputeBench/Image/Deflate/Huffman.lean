import ComputeBench.Image.Deflate.Bits

namespace ComputeBench.Deflate

def maxWordLength : Nat := 15

structure Huffman where
  counts : List Nat
  symbols : Array Nat

namespace Huffman

def ofLengths (lengths : List Nat) : Huffman where
  counts := (List.range maxWordLength).map fun short => lengths.count (short + 1)
  symbols := ((List.range maxWordLength).flatMap fun short =>
    (lengths.zipIdx.filter fun (length, _) => length == short + 1).map
      Prod.snd).toArray

def free : Nat → List Nat → Option Nat
  | room, [] => some room
  | room, count :: longer =>
      if count ≤ 2 * room then free (2 * room - count) longer else none

def isComplete (code : Huffman) : Bool :=
  free 1 code.counts == some 0

/-- A code with one word of one bit at most is let pass though it leaves words free. -/
def isTiny (code : Huffman) : Bool :=
  (free 1 code.counts).isSome && code.counts.tail.all (· == 0)

/-- `word` is what has been read, `first` the first word of its length, `index` the number of
symbols with shorter words. -/
def read (code : Huffman) : List Nat → Nat → Nat → Nat → Bits →
    Except Error (Nat × Bits)
  | [], _, _, _, _ => .error .code
  | count :: longer, word, first, index, bits => do
      let (bit, bits) ← bits.next
      let word := 2 * word + bit.toNat
      if word < first + count then
        return (code.symbols.getD (index + (word - first)) 0, bits)
      else
        read code longer word (2 * (first + count)) (index + count) bits

def symbol (code : Huffman) (bits : Bits) : Except Error (Nat × Bits) :=
  code.read code.counts 0 0 0 bits

end Huffman

end ComputeBench.Deflate
