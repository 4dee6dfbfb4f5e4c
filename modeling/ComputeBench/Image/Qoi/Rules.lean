import ComputeBench.Image.Qoi.Header
import ComputeBench.Image.Qoi.Op

/-! The format as it is documented, with nothing taken from the decoder but the names of what it
reads. -/

namespace ComputeBench.Qoi.Rules

def byteAt (data : Bytes) (place : Nat) : Nat := (data.getD place 0).toNat

def wordAt (data : Bytes) (place : Nat) : Nat :=
  0x1000000 * byteAt data place + 0x10000 * byteAt data (place + 1) +
    0x100 * byteAt data (place + 2) + byteAt data (place + 3)

def header (data : Bytes) : Except Error (Header × Bytes) :=
  let width := wordAt data 4
  let height := wordAt data 8
  if data.length < 14 then .error .unexpectedEnd
  else if byteAt data 12 ≠ 3 ∧ byteAt data 12 ≠ 4 then
    .error (.channels (data.getD 12 0))
  else if 1 < byteAt data 13 then .error (.colorSpace (data.getD 13 0))
  else if wordAt data 0 ≠ 0x716f6966 then
    .error (.magic (data.getD 0 0) (data.getD 1 0) (data.getD 2 0) (data.getD 3 0))
  else if width * height = 0 ∨ 400000000 < width * height then
    .error (.dimensions width height)
  else .ok (⟨width, height, if byteAt data 12 = 3 then .rgb else .rgba,
    if byteAt data 13 = 0 then .srgb else .linear⟩, data.drop 14)

def twoBits (number : Nat) : Fin 4 := ⟨number % 4, Nat.mod_lt number (by decide)⟩

def fourBits (number : Nat) : Fin 16 := ⟨number % 16, Nat.mod_lt number (by decide)⟩

def opAt (channels : Channels) : Bytes → Option (Op × Bytes)
  | [] => none
  | tag :: rest =>
      if index : tag.toNat < 0x40 then some (.index ⟨tag.toNat, index⟩, rest)
      else if tag.toNat < 0x80 then
        some (.diff (twoBits (tag.toNat / 16)) (twoBits (tag.toNat / 4)) (twoBits tag.toNat), rest)
      else if luma : tag.toNat < 0xc0 then
        match rest with
        | second :: rest =>
            some (.luma ⟨tag.toNat - 0x80, by omega⟩ (fourBits (second.toNat / 16))
              (fourBits second.toNat), rest)
        | [] => none
      else if run : tag.toNat < 0xfe then
        some (.run ⟨tag.toNat - 0xc0, by omega⟩, rest)
      else if tag = 0xfe then
        match rest with
        | red :: green :: blue :: rest => some (.rgb red green blue, rest)
        | _ => none
      else
        match channels, rest with
        | .rgba, red :: green :: blue :: alpha :: rest =>
            some (.rgba red green blue alpha, rest)
        | _, _ => none

structure Point where
  pixel : Pixel
  held : Nat → Pixel

def start : Point := ⟨⟨0, 0, 0, 255⟩, fun _ => ⟨0, 0, 0, 0⟩⟩

def hash (pixel : Pixel) : Nat :=
  (3 * pixel.red.toNat + 5 * pixel.green.toNat + 7 * pixel.blue.toNat +
    11 * pixel.alpha.toNat) % 64

/-- Without alpha, a pixel is held and hashed as opaque. -/
def entry (channels : Channels) (pixel : Pixel) : Pixel :=
  match channels with
  | .rgb => { pixel with alpha := 255 }
  | .rgba => pixel

def hold (channels : Channels) (point : Point) (pixel : Pixel) : Point where
  pixel := pixel
  held number :=
    if number = hash (entry channels pixel) then entry channels pixel
    else point.held number

def shift (byte : UInt8) (amount : Int) : UInt8 := .ofInt (byte.toNat + amount)

def write (channels : Channels) (point : Point) : Op → Point
  | .index number =>
      let held := point.held number
      match channels with
      | .rgb => { point with pixel := ⟨held.red, held.green, held.blue, point.pixel.alpha⟩ }
      | .rgba => { point with pixel := held }
  | .diff red green blue =>
      hold channels point
        ⟨shift point.pixel.red (red - 2), shift point.pixel.green (green - 2),
          shift point.pixel.blue (blue - 2), point.pixel.alpha⟩
  | .luma green red blue =>
      hold channels point
        ⟨shift point.pixel.red (green - 32 + (red - 8)), shift point.pixel.green (green - 32),
          shift point.pixel.blue (green - 32 + (blue - 8)), point.pixel.alpha⟩
  | .run _ => point
  | .rgb red green blue => hold channels point ⟨red, green, blue, point.pixel.alpha⟩
  | .rgba red green blue alpha => hold channels point ⟨red, green, blue, alpha⟩

def repeats : Op → Nat
  | .run extra => extra
  | _ => 0

/-- Where there is no op but eight bytes or more, nothing is taken and the pixel is written
again. -/
def pixels (channels : Channels) :
    Nat → Point → Bytes → Except Error (List Pixel × Bytes)
  | 0, _, data => .ok ([], data)
  | left + 1, point, data =>
      match opAt channels data with
      | some (op, data) => do
          let point := write channels point op
          let (later, data) ← pixels channels (left - repeats op) point data
          return (.replicate (min (repeats op) left + 1) point.pixel ++ later, data)
      | none =>
          if data.length < 8 then .error .unexpectedEnd
          else do
            let (later, data) ← pixels channels left (hold channels point point.pixel) data
            return (point.pixel :: later, data)

def padding (data : Bytes) : Except Error Unit :=
  if data.length < 8 then .error .unexpectedEnd
  else if data.take 8 = [0, 0, 0, 0, 0, 0, 0, 1] then .ok ()
  else .error .padding

def decode (bytes : Bytes) : Except Error (Header × List Pixel) := do
  let (header, data) ← header bytes
  let (pixels, data) ← pixels header.channels (header.width * header.height) start data
  padding data
  return (header, pixels)

end ComputeBench.Qoi.Rules
