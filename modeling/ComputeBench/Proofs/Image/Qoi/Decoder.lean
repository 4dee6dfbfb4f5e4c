import Mathlib
import ComputeBench.Proofs.Image.Qoi.Reading

/-! Where no op fits, the rules fill the image and find the end of the stream wanting; the decoder
says so at once. -/

namespace ComputeBench.Qoi

variable {channels : Channels}

theorem ofInt_natCast (number : Nat) : UInt8.ofInt number = .ofNat number := by
  have same : ((number : Int) % 256).toNat = number % 256 := by omega
  exact (congrArg UInt8.ofNat same).trans UInt8.ofNat_mod_size

theorem ofInt_sub (field bias : Nat) :
    UInt8.ofInt (field - bias) = .ofNat field - .ofNat bias := by
  rw [Int.sub_eq_add_neg, UInt8.ofInt_add, UInt8.ofInt_neg, ofInt_natCast, ofInt_natCast,
    UInt8.sub_eq_add_neg]

theorem shift_eq (byte : UInt8) (amount : Int) :
    Rules.shift byte amount = byte + .ofInt amount := by
  rw [Rules.shift, UInt8.ofInt_add, ofInt_natCast, UInt8.ofNat_toNat]

theorem shift_sub (byte : UInt8) (field bias : Nat) :
    Rules.shift byte (field - bias) = byte + .ofNat field - .ofNat bias := by
  rw [shift_eq, ofInt_sub]
  grind

theorem shift_sub_sub (byte : UInt8) (first second field bias : Nat) :
    Rules.shift byte (first - second + (field - bias)) =
      byte + (.ofNat first - .ofNat second) + .ofNat field - .ofNat bias := by
  rw [shift_eq, UInt8.ofInt_add, ofInt_sub, ofInt_sub]
  grind

def Solid (channels : Channels) (pixel : Pixel) : Prop :=
  channels = .rgb → pixel.alpha = 255

theorem solid_rgba (pixel : Pixel) : Solid .rgba pixel := by
  intro same
  cases same

theorem entry_of_solid {pixel : Pixel} (solid : Solid channels pixel) :
    Rules.entry channels pixel = pixel := by
  cases channels with
  | rgb => rw [Rules.entry, ← solid rfl]
  | rgba => rfl

theorem hash_eq_slotOf (pixel : Pixel) : Rules.hash pixel = slotOf pixel := rfl

/-- The decoder is in the state the rules are in, and no alpha has come into an image without. -/
structure State.Follows (channels : Channels) (state : State) (point : Rules.Point) : Prop where
  pixel : point.pixel = state.pixel
  held : ∀ place : Fin 64, point.held place = state.table.get place
  solid : Solid channels state.pixel

variable {state : State} {point : Rules.Point}

theorem State.follows_start : State.start.Follows channels Rules.start where
  pixel := rfl
  held place := by simp [Rules.start, State.start, Vector.get]
  solid _ := rfl

theorem State.Follows.store (follows : state.Follows channels point) {pixel : Pixel}
    (solid : Solid channels pixel) :
    (state.store pixel).Follows channels (Rules.hold channels point pixel) where
  pixel := rfl
  held place := by
    simp only [Rules.hold, entry_of_solid solid, hash_eq_slotOf, State.store,
      Vector.get_eq_getElem, Vector.getElem_set, follows.held, eq_comm]
  solid := solid

theorem State.Follows.apply (follows : state.Follows channels point) {op : Op}
    (suits : op.Suits channels) :
    (state.apply channels op).Follows channels (Rules.write channels point op) := by
  have same := follows.pixel
  have alpha := follows.solid
  cases op with
  | index place =>
      cases channels with
      | rgb =>
          refine ⟨?_, follows.held, alpha⟩
          simp only [Rules.write, follows.held, same, State.apply, State.lookUp]
      | rgba => exact ⟨follows.held place, follows.held, solid_rgba _⟩
  | diff red green blue =>
      have redSum : Rules.shift state.pixel.red (red - 2) =
          state.pixel.red + .ofNat red - 2 := shift_sub _ red 2
      have greenSum : Rules.shift state.pixel.green (green - 2) =
          state.pixel.green + .ofNat green - 2 := shift_sub _ green 2
      have blueSum : Rules.shift state.pixel.blue (blue - 2) =
          state.pixel.blue + .ofNat blue - 2 := shift_sub _ blue 2
      rw [Rules.write, same, redSum, greenSum, blueSum]
      exact follows.store alpha
  | luma green red blue =>
      have redSum : Rules.shift state.pixel.red (green - 32 + (red - 8)) =
          state.pixel.red + (.ofNat green - 32) + .ofNat red - 8 := shift_sub_sub _ green 32 red 8
      have greenSum : Rules.shift state.pixel.green (green - 32) =
          state.pixel.green + (.ofNat green - 32) :=
        (shift_eq _ _).trans (congrArg (state.pixel.green + ·) (ofInt_sub green 32))
      have blueSum : Rules.shift state.pixel.blue (green - 32 + (blue - 8)) =
          state.pixel.blue + (.ofNat green - 32) + .ofNat blue - 8 :=
        shift_sub_sub _ green 32 blue 8
      rw [Rules.write, same, redSum, greenSum, blueSum]
      exact follows.store alpha
  | run extra => exact follows
  | rgb red green blue =>
      rw [Rules.write, same]
      exact follows.store alpha
  | rgba red green blue alpha =>
      cases suits
      exact follows.store (solid_rgba _)

theorem repeats_eq_extra (op : Op) : Rules.repeats op = op.extra := by
  cases op with
  | index | diff | luma | run | rgb | rgba => rfl

theorem push_append_replicate (done : Array Pixel) (pixel : Pixel) (count : Nat) :
    done.push pixel ++ List.replicate count pixel =
      done ++ List.replicate (count + 1) pixel := by
  simp [List.replicate_succ]

theorem readPixels_extra (left extra : Nat) (state : State) (data : Bytes) (done : Array Pixel) :
    readPixels channels left extra state data done =
      readPixels channels (left - extra) 0 state data
        (done ++ List.replicate (min extra left) state.pixel) := by
  induction left generalizing extra done with
  | zero => simp [readPixels]
  | succ left ih =>
      cases extra with
      | zero => simp
      | succ extra =>
          rw [readPixels, ih, push_append_replicate, Nat.succ_min_succ, Nat.succ_sub_succ]

theorem pixels_of_opAt_none {data : Bytes} (missed : Rules.opAt channels data = none)
    (long : ¬ data.length < 8) (left : Nat) (point : Rules.Point) :
    ∃ written, Rules.pixels channels left point data = .ok (written, data) := by
  induction left generalizing point with
  | zero => exact ⟨[], by rw [Rules.pixels]⟩
  | succ left ih =>
      obtain ⟨later, filled⟩ := ih (Rules.hold channels point point.pixel)
      refine ⟨point.pixel :: later, ?_⟩
      simp only [Rules.pixels, missed, if_neg long, filled, ok_bind]
      rfl

theorem readEnd_eq_padding (data : Bytes) : readEnd data = Rules.padding data := rfl

theorem padding_of_opAt_none {data : Bytes} (missed : Rules.opAt channels data = none)
    (long : ¬ data.length < 8) : Rules.padding data = .error .padding := by
  have unmarked : data.take 8 ≠ [0, 0, 0, 0, 0, 0, 0, 1] := by
    intro marked
    rw [← List.take_append_drop 8 data, marked] at missed
    cases missed
  rw [Rules.padding, if_neg long, if_neg unmarked]

/-- The decoder beside the rules: both read the same pixels on to the same place, both fail alike,
or the decoder has stopped where the rules go on to an end that is none. -/
inductive Agrees (done : Array Pixel) :
    Except Error (Array Pixel × Bytes) → Except Error (List Pixel × Bytes) → Prop where
  | read (pixels : List Pixel) (rest : Bytes) :
      Agrees done (.ok (done ++ pixels, rest)) (.ok (pixels, rest))
  | failed (error : Error) : Agrees done (.error error) (.error error)
  | stopped (pixels : List Pixel) (rest : Bytes)
      (unended : Rules.padding rest = .error .padding) :
      Agrees done (.error .padding) (.ok (pixels, rest))

theorem Agrees.prepend {done : Array Pixel} {before : List Pixel}
    {decoded : Except Error (Array Pixel × Bytes)} {ruled : Except Error (List Pixel × Bytes)}
    (later : Agrees (done ++ before) decoded ruled) :
    Agrees done decoded (do
      let (pixels, rest) ← ruled
      return (before ++ pixels, rest)) := by
  cases later with
  | read pixels rest =>
      have joined : done ++ before ++ pixels = done ++ (before ++ pixels) := by
        apply Array.toList_inj.mp
        simp
      rw [joined]
      exact .read (before ++ pixels) rest
  | failed error => exact .failed error
  | stopped pixels rest unended => exact .stopped (before ++ pixels) rest unended

theorem readPixels_agrees (left : Nat) (follows : state.Follows channels point)
    (data : Bytes) (done : Array Pixel) :
    Agrees done (readPixels channels left 0 state data done)
      (Rules.pixels channels left point data) := by
  -- on the pixels still to come, of which an op may take several
  induction left using Nat.strong_induction_on generalizing state point data done with
  | _ left ih =>
      cases left with
      | zero =>
          have nothing : done ++ ([] : List Pixel) = done := by simp
          have read : Agrees done (.ok (done ++ ([] : List Pixel), data)) (.ok ([], data)) :=
            .read [] data
          rw [nothing] at read
          rw [Rules.pixels]
          exact read
      | succ left =>
          cases found : Rules.opAt channels data with
          | none =>
              by_cases short : data.length < 8
              · simp only [readPixels, read_eq_opAt, found, Rules.pixels, if_pos short]
                exact .failed .unexpectedEnd
              · obtain ⟨written, filled⟩ := pixels_of_opAt_none found short (left + 1) point
                simp only [readPixels, read_eq_opAt, found, if_neg short, filled]
                exact .stopped written data (padding_of_opAt_none found short)
          | some result =>
              obtain ⟨op, rest⟩ := result
              have next := follows.apply (suits_of_opAt found)
              simp only [readPixels, read_eq_opAt, found, Rules.pixels, repeats_eq_extra,
                next.pixel]
              rw [readPixels_extra, push_append_replicate]
              apply Agrees.prepend
              exact ih _ (Nat.lt_succ_of_le (Nat.sub_le _ _)) next rest _

theorem decode_eq_rules (bytes : Bytes) : decode bytes = Rules.decode bytes := by
  rw [decode, Rules.decode, Header.read_eq_rules]
  cases Rules.header bytes with
  | error error => rfl
  | ok result =>
      obtain ⟨header, data⟩ := result
      have follows : State.start.Follows header.channels Rules.start := State.follows_start
      have agrees := readPixels_agrees (header.width * header.height) follows data #[]
      simp only [ok_bind]
      generalize readPixels header.channels _ 0 State.start data #[] = decoded at agrees ⊢
      generalize Rules.pixels header.channels _ Rules.start data = ruled at agrees ⊢
      cases agrees with
      | read pixels rest =>
          have written : ((#[] : Array Pixel) ++ pixels).toList = pixels := by simp
          simp only [ok_bind, written, readEnd_eq_padding]
      | failed error => rfl
      | stopped pixels rest unended =>
          simp only [ok_bind, unended]
          rfl

namespace Rules

theorem length_of_pixels (left : Nat) {data rest : Bytes} {written : List Pixel}
    (read : pixels channels left point data = .ok (written, rest)) :
    written.length = left := by
  induction left using Nat.strong_induction_on generalizing point data written with
  | _ left ih =>
      cases left with
      | zero =>
          rw [pixels] at read
          cases read
          rfl
      | succ left =>
          cases found : opAt channels data with
          | none =>
              simp only [pixels, found] at read
              split at read
              · cases read
              · obtain ⟨⟨later, after⟩, reread, joined⟩ := bind_eq_ok.mp read
                cases joined
                rw [List.length_cons, ih left (Nat.lt_succ_self left) reread]
          | some result =>
              obtain ⟨op, data⟩ := result
              simp only [pixels, found] at read
              obtain ⟨⟨later, after⟩, reread, joined⟩ := bind_eq_ok.mp read
              cases joined
              have length := ih _ (Nat.lt_succ_of_le (Nat.sub_le left _)) reread
              rw [List.length_append, List.length_replicate, length]
              omega

theorem header_bounds {bytes rest : Bytes} {opening : Header}
    (opened : header bytes = .ok (opening, rest)) :
    0 < opening.width * opening.height ∧ opening.width * opening.height ≤ maxPixels := by
  rw [header] at opened
  split_ifs at opened with short channels space magic area
  all_goals
    cases opened
    exact ⟨Nat.pos_of_ne_zero (not_or.mp area).1, Nat.le_of_not_lt (not_or.mp area).2⟩

/-- A decoded image has all its pixels, and no more of them than the format allows. -/
theorem decode_filled {bytes : Bytes} {opening : Header} {written : List Pixel}
    (decoded : decode bytes = .ok (opening, written)) :
    written.length = opening.width * opening.height ∧
      0 < opening.width * opening.height ∧ opening.width * opening.height ≤ maxPixels := by
  rw [decode] at decoded
  obtain ⟨⟨_, data⟩, opened, decoded⟩ := bind_eq_ok.mp decoded
  obtain ⟨⟨_, rest⟩, read, decoded⟩ := bind_eq_ok.mp decoded
  obtain ⟨_, ended, decoded⟩ := bind_eq_ok.mp decoded
  cases decoded
  exact ⟨length_of_pixels _ read, header_bounds opened⟩

end Rules

end ComputeBench.Qoi
