import Mathlib
import ComputeBench.Proofs.Gram.Session

namespace ComputeBench.Gram

namespace IntegerType

/-- The word of the target type that stands for the integer a word of the source type stands for,
as far as the target's width goes. -/
def cast (source target : IntegerType) (word : BitVec source.width) : BitVec target.width :=
  target.word (source.value word)

theorem value_cast (source target : IntegerType) (word : BitVec source.width) :
    target.value (source.cast target word) = target.represent (source.value word) :=
  target.value_word _

theorem word_eq_of_modEq (type : IntegerType) {first second : Int}
    (congruent : first ≡ second [ZMOD 2 ^ type.width]) :
    type.word first = type.word second := by
  apply BitVec.eq_of_toNat_eq
  rw [word, word, BitVec.toNat_ofInt, BitVec.toNat_ofInt]
  push_cast
  exact congrArg Int.toNat congruent

theorem represent_modEq (type : IntegerType) (exact : Int) :
    type.represent exact ≡ exact [ZMOD 2 ^ type.width] := by
  unfold represent
  split
  · have reduced := Int.bmod_emod (x := exact) (m := 2 ^ type.width)
    push_cast at reduced
    exact reduced
  · exact Int.mod_modEq exact _

section

variable {source target : IntegerType} (narrower : target.width ≤ source.width)
include narrower

theorem cast_word (exact : Int) : source.cast target (source.word exact) = target.word exact := by
  -- what the source type loses of an integer is a multiple of what the target type loses
  have divides : (2 : Int) ^ target.width ∣ 2 ^ source.width := pow_dvd_pow 2 narrower
  rw [cast, source.value_word]
  exact target.word_eq_of_modEq ((source.represent_modEq exact).of_dvd divides)

theorem cast_add (first second : BitVec source.width) :
    source.cast target (first + second) =
      source.cast target first + source.cast target second := by
  have exact : first + second = source.word (source.value first + source.value second) := by
    rw [source.word_add, source.word_value, source.word_value]
  rw [exact, cast_word narrower, target.word_add]
  rfl

theorem cast_mul (first second : BitVec source.width) :
    source.cast target (first * second) =
      source.cast target first * source.cast target second := by
  have exact : first * second = source.word (source.value first * source.value second) := by
    rw [source.word_mul, source.word_value, source.word_value]
  rw [exact, cast_word narrower, target.word_mul]
  rfl

end

def narrow {source target : IntegerType} (narrower : target.width ≤ source.width) :
    BitVec source.width →+* BitVec target.width where
  toFun := source.cast target
  map_zero' := cast_word narrower 0
  map_one' := cast_word narrower 1
  map_add' := cast_add narrower
  map_mul' := cast_mul narrower

end IntegerType

section

variable {w v : Nat} (change : BitVec w →+* BitVec v) {shape : Shape}
  {input output : Array (BitVec w)}

theorem dot_map (first second : List (BitVec w)) :
    dot (first.map change) (second.map change) = change (dot first second) := by
  induction first generalizing second with
  | nil => exact (map_zero change).symm
  | cons entry rest ih =>
      cases second with
      | nil => exact (map_zero change).symm
      | cons other others =>
          rw [List.map_cons, List.map_cons, dot_cons, dot_cons, ih, map_add, map_mul]

theorem contribution_map (row column : Nat) :
    contribution shape (input.map change) row column =
      change (contribution shape input row column) := by
  rw [contribution, rowAt_map, rowAt_map, dot_map]
  rfl

theorem accumulated_map :
    accumulated shape (input.map change) (output.map change) =
      (accumulated shape input output).map change := by
  apply Array.ext_getElem?
  intro place
  simp only [accumulated, Array.getElem?_mapIdx, Array.getElem?_map, Option.map_map]
  congr 1
  funext entry
  simp only [Function.comp_apply, contribution_map, map_add]

def Call.map (call : Call w) : Call v :=
  ⟨call.shape, call.method, call.input.map change⟩

theorem Call.verdict_map (call : Call w) : (call.map change).verdict = call.verdict := by
  funext size
  rw [verdict, map, Array.size_map]
  rfl

theorem Call.reply_map (call : Call w) (output : Array (BitVec w)) :
    (call.map change).reply (output.map change) =
      ⟨(call.reply output).outcome, (call.reply output).output.map change⟩ := by
  rw [reply, reply, perform_eq, perform_eq, verdict_map, Array.size_map]
  cases call.verdict output.size with
  | error fault => rfl
  | ok passed => exact congrArg (Reply.mk (.ok ())) (accumulated_map change)

end

/-- A cast reduces the integer an entry stands for to the target type. A call on entries cast to a
type that is no wider has the outcome of the call on the entries themselves, and leaves its buffer
cast entry by entry. -/
theorem reply_cast (source target : IntegerType) (narrower : target.width ≤ source.width)
    (shape : Shape) (method : Method) (input output : Array (BitVec source.width)) :
    (∀ word, target.value (source.cast target word) =
      target.represent (source.value word)) ∧
    Call.reply ⟨shape, method, input.map (source.cast target)⟩
        (output.map (source.cast target)) =
      ⟨(Call.reply ⟨shape, method, input⟩ output).outcome,
        (Call.reply ⟨shape, method, input⟩ output).output.map (source.cast target)⟩ := by
  refine ⟨source.value_cast target, ?_⟩
  exact Call.reply_map (IntegerType.narrow narrower) ⟨shape, method, input⟩ output

/-- From sixteen signed bits to eight unsigned ones: -1 becomes 255, and where the wider product
wraps, to -25537, the narrower one is 63. -/
theorem reply_cast_signed_to_unsigned :
    (8 : Nat) ≤ 16 ∧
      Call.reply ⟨⟨1, 2⟩, .sequential, #[200#16, 65535#16]⟩ #[65534#16] =
        ⟨.ok (), #[39999#16]⟩ ∧
      Call.reply ⟨⟨1, 2⟩, .sequential, #[200#8, 255#8]⟩ #[254#8] = ⟨.ok (), #[63#8]⟩ := by
  let change := IntegerType.cast ⟨true, 16⟩ ⟨false, 8⟩
  have input : #[200#16, 65535#16].map change = #[200#8, 255#8] := by decide +kernel
  have output : #[65534#16].map change = #[254#8] := by decide +kernel
  have result : #[39999#16].map change = #[63#8] := by decide +kernel
  have wide : Call.reply ⟨⟨1, 2⟩, .sequential, #[200#16, 65535#16]⟩ #[65534#16] =
      ⟨.ok (), #[39999#16]⟩ := rfl
  obtain ⟨-, narrow⟩ := reply_cast ⟨true, 16⟩ ⟨false, 8⟩ (by decide) ⟨1, 2⟩ .sequential
    #[200#16, 65535#16] #[65534#16]
  rw [wide, input, output, result] at narrow
  exact ⟨by decide, wide, narrow⟩

end ComputeBench.Gram
