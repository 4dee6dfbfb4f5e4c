import ComputeBench.Image.Qoi.Header
import ComputeBench.Image.Qoi.Op

namespace ComputeBench.Qoi

def slotOf (pixel : Pixel) : Fin 64 :=
  slot (3 * pixel.red.toNat + 5 * pixel.green.toNat + 7 * pixel.blue.toNat +
    11 * pixel.alpha.toNat)

structure State where
  pixel : Pixel
  table : Vector Pixel 64
  deriving DecidableEq

namespace State

def start : State :=
  ⟨⟨0, 0, 0, 255⟩, .replicate 64 ⟨0, 0, 0, 0⟩⟩

def store (state : State) (pixel : Pixel) : State :=
  ⟨pixel, state.table.set (slotOf pixel) pixel⟩

/-- In an image of three channels a slot gives its colour only. -/
def lookUp (channels : Channels) (state : State) (held : Fin 64) : Pixel :=
  match channels with
  | .rgb => { state.table.get held with alpha := state.pixel.alpha }
  | .rgba => state.table.get held

def apply (channels : Channels) (state : State) : Op → State
  | .index held => { state with pixel := state.lookUp channels held }
  | .diff red green blue => state.store {
      red := state.pixel.red + .ofNat red - 2
      green := state.pixel.green + .ofNat green - 2
      blue := state.pixel.blue + .ofNat blue - 2
      alpha := state.pixel.alpha }
  | .luma green red blue =>
      let shift : UInt8 := .ofNat green - 32
      state.store {
        red := state.pixel.red + shift + .ofNat red - 8
        green := state.pixel.green + shift
        blue := state.pixel.blue + shift + .ofNat blue - 8
        alpha := state.pixel.alpha }
  | .run _ => state
  | .rgb red green blue => state.store ⟨red, green, blue, state.pixel.alpha⟩
  | .rgba red green blue alpha => state.store ⟨red, green, blue, alpha⟩

end State

def Op.extra : Op → Nat
  | .run extra => extra
  | _ => 0

/-- What the last op stands for beyond the image is dropped. -/
def readPixels (channels : Channels) :
    Nat → Nat → State → Bytes → Array Pixel → Except Error (Array Pixel × Bytes)
  | 0, _, _, rest, done => .ok (done, rest)
  | left + 1, extra + 1, state, rest, done =>
      readPixels channels left extra state rest (done.push state.pixel)
  | left + 1, 0, state, rest, done =>
      match Op.read channels rest with
      | .error error => .error error
      | .ok (op, rest) =>
          let state := state.apply channels op
          readPixels channels left op.extra state rest (done.push state.pixel)

def readEnd (rest : Bytes) : Except Error Unit :=
  if rest.length < endMarker.length then .error .unexpectedEnd
  else if rest.take endMarker.length = endMarker then .ok ()
  else .error .padding

def decode (bytes : Bytes) : Except Error (Header × List Pixel) := do
  let (header, ops) ← Header.read bytes
  let (pixels, rest) ← readPixels header.channels (header.width * header.height) 0
    .start ops #[]
  readEnd rest
  return (header, pixels.toList)

end ComputeBench.Qoi
