import Mathlib
import ComputeBench.Bytes.RoundTrip
import ComputeBench.Image.Qoi.Encoding
import ComputeBench.Proofs.Image.Qoi.Decoder

namespace ComputeBench.Qoi

variable {channels : Channels}

theorem toNat_byte {number : Nat} (fits : number < 256) : (UInt8.ofNat number).toNat = number := by
  rw [UInt8.toNat_ofNat']
  exact Nat.mod_eq_of_lt fits

theorem twoBits_eq (number : Nat) (field : Fin 4) (low : number % 4 = field) :
    Rules.twoBits number = field :=
  Fin.ext low

theorem fourBits_eq (number : Nat) (field : Fin 16) (low : number % 16 = field) :
    Rules.fourBits number = field :=
  Fin.ext low

theorem opAt_encode {op : Op} (suits : op.Suits channels) (rest : Bytes) :
    Rules.opAt channels (op.encode ++ rest) = some (op, rest) := by
  cases op with
  | index held =>
      have tag : (UInt8.ofNat held).toNat = held := toNat_byte (by omega)
      simp only [Op.encode, List.cons_append, List.nil_append, Rules.opAt, tag,
        dif_pos held.isLt]
  | diff red green blue =>
      have tag : (UInt8.ofNat (64 + 16 * red + 4 * green + blue)).toNat =
          64 + 16 * red + 4 * green + blue := toNat_byte (by omega)
      have range : ¬ 64 + 16 * (red : Nat) + 4 * green + blue < 0x40 := by omega
      have within : 64 + 16 * (red : Nat) + 4 * green + blue < 0x80 := by omega
      have redField := twoBits_eq ((64 + 16 * red + 4 * green + blue) / 16) red (by omega)
      have greenField := twoBits_eq ((64 + 16 * red + 4 * green + blue) / 4) green (by omega)
      have blueField := twoBits_eq (64 + 16 * red + 4 * green + blue) blue (by omega)
      simp only [Op.encode, List.cons_append, List.nil_append, Rules.opAt, tag, dif_neg range,
        if_pos within, redField, greenField, blueField]
  | luma green red blue =>
      have tag : (UInt8.ofNat (128 + green)).toNat = 128 + green := toNat_byte (by omega)
      have second : (UInt8.ofNat (16 * red + blue)).toNat = 16 * red + blue :=
        toNat_byte (by omega)
      have notIndex : ¬ 128 + (green : Nat) < 0x40 := by omega
      have notDiff : ¬ 128 + (green : Nat) < 0x80 := by omega
      have within : 128 + (green : Nat) < 0xc0 := by omega
      have greenField : (⟨128 + green - 0x80, by omega⟩ : Fin 64) = green :=
        Fin.ext (Nat.add_sub_cancel_left _ _)
      have redField := fourBits_eq ((16 * red + blue) / 16) red (by omega)
      have blueField := fourBits_eq (16 * red + blue) blue (by omega)
      simp only [Op.encode, List.cons_append, List.nil_append, Rules.opAt, tag, second,
        dif_neg notIndex, if_neg notDiff, dif_pos within, greenField, redField, blueField]
  | run extra =>
      have tag : (UInt8.ofNat (192 + extra)).toNat = 192 + extra := toNat_byte (by omega)
      have notIndex : ¬ 192 + (extra : Nat) < 0x40 := by omega
      have notDiff : ¬ 192 + (extra : Nat) < 0x80 := by omega
      have notLuma : ¬ 192 + (extra : Nat) < 0xc0 := by omega
      have within : 192 + (extra : Nat) < 0xfe := by omega
      have field : (⟨192 + extra - 0xc0, by omega⟩ : Fin 62) = extra :=
        Fin.ext (Nat.add_sub_cancel_left _ _)
      simp only [Op.encode, List.cons_append, List.nil_append, Rules.opAt, tag,
        dif_neg notIndex, if_neg notDiff, dif_neg notLuma, dif_pos within, field]
  | rgb red green blue => rfl
  | rgba red green blue alpha =>
      cases suits
      rfl

theorem shift_back (previous next bias : UInt8) :
    previous + (next - previous + bias) - bias = next := by
  grind

theorem apply_of_states {state : State} {op : Op} {next : Pixel}
    (stated : op.States channels state.pixel next) :
    state.apply channels op = state.store next := by
  cases stated with
  | diff red green blue sameAlpha red_eq green_eq blue_eq =>
      simp only [State.apply, ← red_eq, ← green_eq, ← blue_eq, shift_back, ← sameAlpha]
  | luma green red blue sameAlpha green_eq red_eq blue_eq =>
      have greenBack : state.pixel.green + (.ofNat green - 32) = next.green := by
        rw [← green_eq]
        grind
      have redBack : state.pixel.red + (.ofNat green - 32) + .ofNat red - 8 = next.red := by
        rw [← green_eq, ← red_eq]
        grind
      have blueBack : state.pixel.blue + (.ofNat green - 32) + .ofNat blue - 8 = next.blue := by
        rw [← green_eq, ← blue_eq]
        grind
      simp only [State.apply, greenBack, redBack, blueBack, ← sameAlpha]
  | rgb sameAlpha => rw [State.apply, ← sameAlpha]
  | rgba withAlpha => rfl

theorem suits_of_states {previous next : Pixel} {op : Op}
    (stated : op.States channels previous next) : op.Suits channels := by
  cases stated with
  | diff | luma | rgb => trivial
  | rgba withAlpha => exact withAlpha

theorem extra_of_states {previous next : Pixel} {op : Op}
    (stated : op.States channels previous next) : op.extra = 0 := by
  cases stated with
  | diff | luma | rgb | rgba => rfl

theorem agree_rgb_iff {first second : Pixel} :
    first.Agree .rgb second ↔
      first.red = second.red ∧ first.green = second.green ∧ first.blue = second.blue := by
  simp [Pixel.Agree, Pixel.bytes]

theorem agree_rgba_iff {first second : Pixel} : first.Agree .rgba second ↔ first = second := by
  cases first
  cases second
  simp [Pixel.Agree, Pixel.bytes]

theorem lookUp_of_agree {state : State} {place : Fin 64} {next : Pixel}
    (held : (state.table.get place).Agree channels next)
    (alpha : channels = .rgb → next.alpha = state.pixel.alpha) :
    state.lookUp channels place = next := by
  cases channels with
  | rgb =>
      obtain ⟨red, green, blue⟩ := agree_rgb_iff.mp held
      rw [State.lookUp, red, green, blue, ← alpha rfl]
  | rgba => exact agree_rgba_iff.mp held

theorem apply_of_agree {state : State} {place : Fin 64} {next : Pixel}
    (solid : Solid channels state.pixel) (held : (state.table.get place).Agree channels next)
    (solidNext : Solid channels next) :
    state.apply channels (.index place) = { state with pixel := next } := by
  have alpha : channels = .rgb → next.alpha = state.pixel.alpha := fun same =>
    (solidNext same).trans (solid same).symm
  have found : state.lookUp channels place = next := lookUp_of_agree held alpha
  exact congrArg (fun pixel => { state with pixel }) found

/-- One op: it is read, and all the pixels it stands for are written. -/
theorem pixels_op {op : Op} (suits : op.Suits channels) {point : Rules.Point} {left : Nat}
    {data rest : Bytes} {later : List Pixel}
    (read : Rules.pixels channels left (Rules.write channels point op) data =
      .ok (later, rest)) :
    Rules.pixels channels (op.extra + 1 + left) point (op.encode ++ data) =
      .ok (.replicate (op.extra + 1) (Rules.write channels point op).pixel ++ later, rest) := by
  have count : op.extra + 1 + left = op.extra + left + 1 := Nat.add_right_comm _ _ _
  have remaining : op.extra + left - op.extra = left := Nat.add_sub_cancel_left _ _
  have whole : min op.extra (op.extra + left) = op.extra := Nat.min_eq_left (by omega)
  rw [count, Rules.pixels]
  simp only [opAt_encode suits, repeats_eq_extra, remaining, read, ok_bind, whole]
  rfl

theorem pixels_of_encodes {state : State} {ops : List Op} {pixels : List Pixel}
    (encodes : Encodes channels state ops pixels) {point : Rules.Point}
    (follows : state.Follows channels point) (solid : ∀ pixel ∈ pixels, Solid channels pixel)
    (rest : Bytes) :
    Rules.pixels channels pixels.length point (ops.flatMap Op.encode ++ rest) =
      .ok (pixels, rest) := by
  -- op by op; the rules stay in the state the encoder is in
  induction encodes generalizing point with
  | done state => rw [List.length_nil, Rules.pixels]; rfl
  | run state extra ops pixels _ ih =>
      have later := ih follows fun pixel member => solid pixel (List.mem_append_right _ member)
      have suits : (Op.run extra).Suits channels := trivial
      have read := pixels_op suits later
      rw [(follows.apply suits).pixel] at read
      rw [List.length_append, List.length_replicate, List.flatMap_cons, List.append_assoc]
      exact read
  | index state place next ops pixels held _ ih =>
      have suits : (Op.index place).Suits channels := trivial
      have step := follows.apply suits
      rw [apply_of_agree follows.solid held (solid next List.mem_cons_self)] at step
      have later := ih step fun pixel member => solid pixel (List.mem_cons_of_mem next member)
      have read := pixels_op suits later
      rw [step.pixel] at read
      rw [List.length_cons, Nat.add_comm, List.flatMap_cons, List.append_assoc]
      exact read
  | states state op next ops pixels stated _ ih =>
      have suits := suits_of_states stated
      have step := follows.apply suits
      rw [apply_of_states stated] at step
      have later := ih step fun pixel member => solid pixel (List.mem_cons_of_mem next member)
      have read := pixels_op suits later
      rw [step.pixel, extra_of_states stated] at read
      rw [List.length_cons, Nat.add_comm, List.flatMap_cons, List.append_assoc]
      exact read

structure Encodable (image : Image) : Prop where
  area_pos : 0 < image.width * image.height
  area_le : image.width * image.height ≤ maxPixels
  filled : image.pixels.length = image.width * image.height
  solid : ∀ pixel ∈ image.pixels, image.channels = .rgb → pixel.alpha = 255

theorem Header.read_encode {header : Header} (area : 0 < header.width * header.height)
    (bound : header.width * header.height ≤ maxPixels) (data : Bytes) :
    Header.read (header.encode ++ data) = .ok (header, data) := by
  have limit : maxPixels < 256 ^ 4 := by decide
  have widthLe : header.width ≤ header.width * header.height :=
    Nat.le_mul_of_pos_right _ (Nat.pos_of_mul_pos_left area)
  have heightLe : header.height ≤ header.width * header.height :=
    Nat.le_mul_of_pos_left _ (Nat.pos_of_mul_pos_right area)
  obtain ⟨w0, w1, w2, w3, widthField, width⟩ :=
    BigEndian.exists_four_bytes ((widthLe.trans bound).trans_lt limit)
  obtain ⟨h0, h1, h2, h3, heightField, height⟩ :=
    BigEndian.exists_four_bytes ((heightLe.trans bound).trans_lt limit)
  have channels : readChannels (.ofNat header.channels.count) = .ok header.channels := by
    cases header.channels with
    | rgb => rfl
    | rgba => rfl
  have colorSpace : readColorSpace header.colorSpace.number = .ok header.colorSpace := by
    cases header.colorSpace with
    | srgb => rfl
    | linear => rfl
  have within : ¬ (header.width * header.height = 0 ∨
      maxPixels < header.width * header.height) := by omega
  simp only [encode, widthField, heightField, magic, List.cons_append, List.nil_append, read,
    channels, colorSpace, ok_bind, width, height, if_neg within]
  rfl

theorem padding_endMarker : Rules.padding endMarker = .ok () := rfl

theorem decode_encode {image : Image} (encodable : Encodable image) {ops : List Op}
    (encodes : Encodes image.channels .start ops image.pixels) (colorSpace : ColorSpace) :
    Rules.decode (encode ⟨image.width, image.height, image.channels, colorSpace⟩ ops) =
      .ok (⟨image.width, image.height, image.channels, colorSpace⟩, image.pixels) := by
  have opened : Rules.header
      (encode ⟨image.width, image.height, image.channels, colorSpace⟩ ops) =
      .ok (⟨image.width, image.height, image.channels, colorSpace⟩,
        ops.flatMap Op.encode ++ endMarker) := by
    rw [← Header.read_eq_rules, encode, List.append_assoc]
    exact Header.read_encode encodable.area_pos encodable.area_le _
  have read := pixels_of_encodes encodes State.follows_start encodable.solid endMarker
  rw [encodable.filled] at read
  simp only [Rules.decode, opened, ok_bind, read, padding_endMarker]
  rfl

end ComputeBench.Qoi
