import ComputeBench.Image.Qoi.Decoder

namespace ComputeBench.Qoi

inductive Op.States (channels : Channels) (previous next : Pixel) : Op → Prop where
  | diff (red green blue : Fin 4)
      (sameAlpha : next.alpha = previous.alpha)
      (red_eq : next.red - previous.red + 2 = .ofNat red)
      (green_eq : next.green - previous.green + 2 = .ofNat green)
      (blue_eq : next.blue - previous.blue + 2 = .ofNat blue) :
      States channels previous next (.diff red green blue)
  | luma (green : Fin 64) (red blue : Fin 16)
      (sameAlpha : next.alpha = previous.alpha)
      (green_eq : next.green - previous.green + 32 = .ofNat green)
      (red_eq : next.red - previous.red - (next.green - previous.green) + 8 =
        .ofNat red)
      (blue_eq : next.blue - previous.blue - (next.green - previous.green) + 8 =
        .ofNat blue) :
      States channels previous next (.luma green red blue)
  | rgb (sameAlpha : next.alpha = previous.alpha) :
      States channels previous next (.rgb next.red next.green next.blue)
  | rgba (withAlpha : channels = .rgba) :
      States channels previous next
        (.rgba next.red next.green next.blue next.alpha)

inductive Encodes (channels : Channels) : State → List Op → List Pixel → Prop where
  | done (state : State) : Encodes channels state [] []
  | run (state : State) (extra : Fin 62) (ops : List Op) (pixels : List Pixel)
      (rest : Encodes channels state ops pixels) :
      Encodes channels state (.run extra :: ops)
        (List.replicate (extra + 1) state.pixel ++ pixels)
  | index (state : State) (place : Fin 64) (next : Pixel) (ops : List Op)
      (pixels : List Pixel)
      (held : (state.table.get place).Agree channels next)
      (rest : Encodes channels { state with pixel := next } ops pixels) :
      Encodes channels state (.index place :: ops) (next :: pixels)
  | states (state : State) (op : Op) (next : Pixel) (ops : List Op)
      (pixels : List Pixel)
      (stated : op.States channels state.pixel next)
      (rest : Encodes channels (state.store next) ops pixels) :
      Encodes channels state (op :: ops) (next :: pixels)

def encode (header : Header) (ops : List Op) : Bytes :=
  header.encode ++ ops.flatMap Op.encode ++ endMarker

end ComputeBench.Qoi
