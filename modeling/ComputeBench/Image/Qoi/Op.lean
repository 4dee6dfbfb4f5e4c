import ComputeBench.Image.Pixel
import ComputeBench.Image.Qoi.Error

namespace ComputeBench.Qoi

def slot (number : Nat) : Fin 64 := .ofNat 64 number

inductive Op where
  | index (held : Fin 64)
  | diff (red green blue : Fin 4)
  | luma (green : Fin 64) (red blue : Fin 16)
  | run (extra : Fin 62)
  | rgb (red green blue : UInt8)
  | rgba (red green blue alpha : UInt8)
  deriving DecidableEq, Repr

def endMarker : Bytes := [0, 0, 0, 0, 0, 0, 0, 1]

namespace Op

def encode : Op → Bytes
  | .index held => [.ofNat held]
  | .diff red green blue => [.ofNat (64 + 16 * red + 4 * green + blue)]
  | .luma green red blue => [.ofNat (128 + green), .ofNat (16 * red + blue)]
  | .run extra => [.ofNat (192 + extra)]
  | .rgb red green blue => [254, red, green, blue]
  | .rgba red green blue alpha => [255, red, green, blue, alpha]

/-- In an image of three channels the reader goes no further: what is left of the stream is then
taken for its end, and is not the end marker. -/
def readRgba (channels : Channels) : Bytes → Except Error (Op × Bytes)
  | red :: green :: blue :: alpha :: rest =>
      match channels with
      | .rgba => .ok (.rgba red green blue alpha, rest)
      | .rgb =>
          if rest.length + 5 < endMarker.length then .error .unexpectedEnd
          else .error .padding
  | _ => .error .unexpectedEnd

def readShort (tag : UInt8) (rest : Bytes) : Except Error (Op × Bytes) :=
  let field := tag.toNat % 64
  match tag.toNat / 64 with
  | 0 => .ok (.index (slot field), rest)
  | 1 =>
      .ok (.diff (.ofNat 4 (field / 16)) (.ofNat 4 (field / 4)) (.ofNat 4 field), rest)
  | 2 =>
      match rest with
      | second :: rest =>
          .ok (.luma (slot field) (.ofNat 16 (second.toNat / 16))
            (.ofNat 16 second.toNat), rest)
      | [] => .error .unexpectedEnd
  | _ => .ok (.run (.ofNat 62 field), rest)

def read (channels : Channels) : Bytes → Except Error (Op × Bytes)
  | [] => .error .unexpectedEnd
  | tag :: rest =>
      if tag = 254 then
        match rest with
        | red :: green :: blue :: rest => .ok (.rgb red green blue, rest)
        | _ => .error .unexpectedEnd
      else if tag = 255 then readRgba channels rest
      else readShort tag rest

end Op

end ComputeBench.Qoi
