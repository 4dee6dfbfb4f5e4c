import Mathlib
import ComputeBench.Image.Qoi.Decoder
import ComputeBench.Image.Qoi.Rules

namespace ComputeBench.Qoi

variable {channels : Channels}

namespace Header

theorem decode_word (b0 b1 b2 b3 : UInt8) :
    BigEndian.decode [b0, b1, b2, b3] =
      0x1000000 * b0.toNat + 0x10000 * b1.toNat + 0x100 * b2.toNat + b3.toNat := by
  simp only [BigEndian.decode, List.reverse_cons, List.reverse_nil, List.nil_append,
    List.cons_append, LittleEndian.decode]
  omega

theorem magic_iff (m0 m1 m2 m3 : UInt8) :
    [m0, m1, m2, m3] = magic ↔
      0x1000000 * m0.toNat + 0x10000 * m1.toNat + 0x100 * m2.toNat + m3.toNat = 0x716f6966 := by
  have bounds := And.intro (And.intro m0.toNat_lt m1.toNat_lt) (And.intro m2.toNat_lt m3.toNat_lt)
  simp only [magic, List.cons.injEq, and_true, ← UInt8.toNat_inj, UInt8.reduceToNat]
  omega

theorem readChannels_eq (number : UInt8) :
    readChannels number =
      if number.toNat ≠ 3 ∧ number.toNat ≠ 4 then .error (.channels number)
      else .ok (if number.toNat = 3 then .rgb else .rgba) := by
  have three : number = 3 ↔ number.toNat = 3 := UInt8.toNat_inj.symm
  have four : number = 4 ↔ number.toNat = 4 := UInt8.toNat_inj.symm
  simp only [readChannels, three, four]
  split_ifs <;> first | rfl | omega

theorem readColorSpace_eq (number : UInt8) :
    readColorSpace number =
      if 1 < number.toNat then .error (.colorSpace number)
      else .ok (if number.toNat = 0 then .srgb else .linear) := by
  have zero : number = 0 ↔ number.toNat = 0 := UInt8.toNat_inj.symm
  have one : number = 1 ↔ number.toNat = 1 := UInt8.toNat_inj.symm
  simp only [readColorSpace, zero, one]
  split_ifs <;> first | rfl | omega

theorem read_eq_rules (data : Bytes) : read data = Rules.header data := by
  match data with
  | m0 :: m1 :: m2 :: m3 :: w0 :: w1 :: w2 :: w3 :: h0 :: h1 :: h2 :: h3 :: channels ::
      colorSpace :: rest =>
      have long : ¬ (rest.length + 14 < 14) := by omega
      simp only [read, readChannels_eq, readColorSpace_eq, decode_word, ne_eq, magic_iff,
        Rules.header, Rules.byteAt, Rules.wordAt, List.length_cons, if_neg long,
        List.getD_cons_succ, List.getD_cons_zero, Nat.reduceAdd]
      by_cases kind : ¬ channels.toNat = 3 ∧ ¬ channels.toNat = 4
      · simp only [if_pos kind, error_bind]
      · by_cases space : 1 < colorSpace.toNat
        · simp only [if_neg kind, if_pos space, ok_bind, error_bind]
        · simp only [if_neg kind, if_neg space, ok_bind]
          rfl
  | [] | [_] | [_, _] | [_, _, _] | [_, _, _, _] | [_, _, _, _, _] | [_, _, _, _, _, _]
  | [_, _, _, _, _, _, _] | [_, _, _, _, _, _, _, _] | [_, _, _, _, _, _, _, _, _]
  | [_, _, _, _, _, _, _, _, _, _] | [_, _, _, _, _, _, _, _, _, _, _]
  | [_, _, _, _, _, _, _, _, _, _, _, _] | [_, _, _, _, _, _, _, _, _, _, _, _, _] => rfl

end Header

theorem readShort_eq_opAt (channels : Channels) {tag : UInt8} (short : tag.toNat < 254)
    (rest : Bytes) :
    Op.readShort tag rest = match Rules.opAt channels (tag :: rest) with
      | some result => .ok result
      | none => .error .unexpectedEnd := by
  simp only [Rules.opAt, Op.readShort]
  by_cases index : tag.toNat < 64
  · have range : tag.toNat / 64 = 0 := by omega
    have field : slot (tag.toNat % 64) = ⟨tag.toNat, index⟩ := by
      apply Fin.ext
      simp only [slot, Fin.ofNat]
      omega
    simp only [range, field, dif_pos index]
  by_cases diff : tag.toNat < 128
  · have range : tag.toNat / 64 = 1 := by omega
    have red : tag.toNat % 64 / 16 % 4 = tag.toNat / 16 % 4 := by omega
    have green : tag.toNat % 64 / 4 % 4 = tag.toNat / 4 % 4 := by omega
    have blue : tag.toNat % 64 % 4 = tag.toNat % 4 := by omega
    simp only [range, dif_neg index, if_pos diff, Fin.ofNat, red, green, blue, Rules.twoBits]
  by_cases luma : tag.toNat < 192
  · have range : tag.toNat / 64 = 2 := by omega
    have field : slot (tag.toNat % 64) = ⟨tag.toNat - 128, by omega⟩ := by
      apply Fin.ext
      simp only [slot, Fin.ofNat]
      omega
    simp only [range, field, dif_neg index, if_neg diff, dif_pos luma]
    cases rest <;> rfl
  · have range : tag.toNat / 64 = 3 := by omega
    have field : Fin.ofNat 62 (tag.toNat % 64) = ⟨tag.toNat - 192, by omega⟩ := by
      apply Fin.ext
      simp only [Fin.ofNat]
      omega
    simp only [range, field, dif_neg index, if_neg diff, dif_neg luma, dif_pos short]

theorem rest_eq_nil_of_opAt_none {tag : UInt8} {rest : Bytes} (short : tag.toNat < 254)
    (missed : Rules.opAt channels (tag :: rest) = none) : rest = [] := by
  cases rest with
  | nil => rfl
  | cons second rest =>
      simp only [Rules.opAt, dif_pos short] at missed
      split_ifs at missed

theorem first_byte_cases (tag : UInt8) : tag.toNat < 254 ∨ tag = 254 ∨ tag = 255 := by
  have bound := tag.toNat_lt
  simp only [← UInt8.toNat_inj, UInt8.reduceToNat]
  omega

/-- The decoder reads the op the rules find, and else fails as the rules do in the end. -/
theorem read_eq_opAt (channels : Channels) (data : Bytes) :
    Op.read channels data = match Rules.opAt channels data with
      | some result => .ok result
      | none =>
          .error (if data.length < 8 then .unexpectedEnd else .padding) := by
  cases data with
  | nil => rfl
  | cons tag rest =>
      obtain short | rfl | rfl := first_byte_cases tag
      · have rgb : tag ≠ 254 := fun same => absurd (same ▸ short) (by decide)
        have rgba : tag ≠ 255 := fun same => absurd (same ▸ short) (by decide)
        have byRange : Op.read channels (tag :: rest) = Op.readShort tag rest := by
          simp only [Op.read, if_neg rgb, if_neg rgba]
        rw [byRange, readShort_eq_opAt channels short]
        cases found : Rules.opAt channels (tag :: rest) with
        | some result => rfl
        | none =>
            cases rest_eq_nil_of_opAt_none short found
            rfl
      · match rest with
        | [] | [_] | [_, _] | _ :: _ :: _ :: _ => rfl
      · cases channels with
        | rgb =>
            match rest with
            | [] | [_] | [_, _] | [_, _, _] => rfl
            | _ :: _ :: _ :: _ :: rest =>
                exact (apply_ite Except.error _ _ _).symm
        | rgba =>
            match rest with
            | [] | [_] | [_, _] | [_, _, _] | _ :: _ :: _ :: _ :: _ => rfl

def Op.Suits (channels : Channels) : Op → Prop
  | .rgba .. => channels = .rgba
  | _ => True

theorem suits_of_opAt {data rest : Bytes} {op : Op}
    (found : Rules.opAt channels data = some (op, rest)) : op.Suits channels := by
  revert found
  fun_cases Rules.opAt channels data
  all_goals intro found
  all_goals cases found
  all_goals trivial

end ComputeBench.Qoi
