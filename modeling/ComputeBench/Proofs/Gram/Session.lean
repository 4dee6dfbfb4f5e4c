import Mathlib
import ComputeBench.Proofs.Gram.Exactness
import ComputeBench.Proofs.Gram.Schedule

namespace ComputeBench.Gram

variable {w : Nat}

namespace Call

def verdict (call : Call w) (size : Nat) : Except Fault Unit :=
  liftM (call.shape.check call.input.size size)

def entryAt (call : Call w) (place : Nat) : BitVec w :=
  contribution call.shape call.input (place / call.shape.rows) (place % call.shape.rows)

/-- What a call adds at a place of a buffer of some length. -/
def addend (call : Call w) (size place : Nat) : BitVec w :=
  if (call.verdict size).isOk then call.entryAt place else 0

structure Agrees (call other : Call w) : Prop where
  shape : call.shape = other.shape
  input : call.input = other.input

theorem perform_eq (call : Call w) (output : Array (BitVec w)) :
    call.perform output = do
      call.verdict output.size
      return accumulated call.shape call.input output := by
  rw [verdict, ← accumulate_eq, perform]
  cases call.method with
  | sequential => rfl
  | parallel schedule => exact accumulateParallel_eq schedule _ _ _

theorem outcome_reply (call : Call w) (output : Array (BitVec w)) :
    (call.reply output).outcome = call.verdict output.size := by
  rw [reply, perform_eq]
  cases call.verdict output.size with
  | error fault => rfl
  | ok passed => rfl

theorem getElem?_reply (call : Call w) (output : Array (BitVec w)) (place : Nat) :
    (call.reply output).output[place]? =
      output[place]?.map (· + call.addend output.size place) := by
  rw [reply, perform_eq, addend]
  cases call.verdict output.size with
  | error fault =>
      change output[place]? = output[place]?.map (· + 0)
      simp
  | ok passed =>
      change (accumulated call.shape call.input output)[place]? = _
      rw [accumulated, Array.getElem?_mapIdx]
      rfl

theorem size_reply (call : Call w) (output : Array (BitVec w)) :
    (call.reply output).output.size = output.size := by
  rw [reply, perform_eq]
  cases call.verdict output.size with
  | error fault => rfl
  | ok passed => exact size_accumulated _ _ _

theorem Agrees.verdict {call other : Call w} (agrees : call.Agrees other) :
    call.verdict = other.verdict := by
  funext size
  rw [Call.verdict, Call.verdict, agrees.shape, agrees.input]

theorem Agrees.addend {call other : Call w} (agrees : call.Agrees other) :
    call.addend = other.addend := by
  funext size place
  rw [Call.addend, Call.addend, agrees.verdict, entryAt, entryAt, agrees.shape, agrees.input]

end Call

theorem outcomes_replies (calls : List (Call w)) (output : Array (BitVec w)) :
    (replies calls output).map Reply.outcome =
      calls.map fun call => call.verdict output.size := by
  induction calls generalizing output with
  | nil => rfl
  | cons call rest ih =>
      rw [replies, List.map_cons, ih, call.size_reply, call.outcome_reply, List.map_cons]

theorem size_finalOutput (calls : List (Call w)) (output : Array (BitVec w)) :
    (finalOutput calls output).size = output.size := by
  induction calls generalizing output with
  | nil => rfl
  | cons call rest ih => exact (ih _).trans (call.size_reply output)

theorem getElem?_finalOutput (calls : List (Call w)) (output : Array (BitVec w))
    (place : Nat) :
    (finalOutput calls output)[place]? =
      output[place]?.map
        (· + (calls.map fun call => call.addend output.size place).sum) := by
  induction calls generalizing output with
  | nil => simp [finalOutput]
  | cons call rest ih =>
      -- the length is as before, so the rest add what they would add to the first buffer
      have tail := ih (call.reply output).output
      rw [call.size_reply, call.getElem?_reply, Option.map_map] at tail
      rw [List.map_cons, List.sum_cons]
      refine tail.trans ?_
      congr 1
      funext entry
      exact BitVec.add_assoc _ _ _

theorem finalOutput_eq_last (calls : List (Call w)) (output : Array (BitVec w)) :
    finalOutput calls output =
      ((replies calls output).getLast?.map Reply.output).getD output := by
  induction calls generalizing output with
  | nil => rfl
  | cons call rest ih =>
      have tail := ih (call.reply output).output
      rw [replies, List.getLast?_cons, Option.map_some, Option.getD_some]
      refine tail.trans ?_
      cases (replies rest (call.reply output).output).getLast? with
      | none => rfl
      | some reply => rfl

theorem finalOutput_eq_of_addends {calls others : List (Call w)} {output : Array (BitVec w)}
    (same : ∀ place < output.size,
      (calls.map fun call => call.addend output.size place).sum =
        (others.map fun call => call.addend output.size place).sum) :
    finalOutput calls output = finalOutput others output := by
  apply Array.ext_getElem?
  intro place
  rw [getElem?_finalOutput, getElem?_finalOutput]
  by_cases inside : place < output.size
  · rw [same place inside]
  · rw [Array.getElem?_eq_none (not_lt.mp inside), Option.map_none, Option.map_none]

theorem finalOutput_perm {calls others : List (Call w)} (perm : calls.Perm others)
    (output : Array (BitVec w)) : finalOutput calls output = finalOutput others output :=
  finalOutput_eq_of_addends fun _ _ => (perm.map _).sum_eq

theorem map_eq_of_agrees {α : Type} {calls others : List (Call w)} {view : Call w → α}
    (agree : List.Forall₂ Call.Agrees calls others)
    (blind : ∀ {call other : Call w}, call.Agrees other → view call = view other) :
    calls.map view = others.map view := by
  rw [← List.forall₂_eq_eq_eq, List.forall₂_map_left_iff, List.forall₂_map_right_iff]
  exact agree.imp fun _ _ same => blind same

theorem finalOutput_agrees {calls others : List (Call w)}
    (agree : List.Forall₂ Call.Agrees calls others) (output : Array (BitVec w)) :
    finalOutput calls output = finalOutput others output :=
  finalOutput_eq_of_addends fun place _ =>
    congrArg List.sum (map_eq_of_agrees agree fun same => by rw [same.addend])

def accepted (calls : List (Call w)) (output : Array (BitVec w)) : List (Call w) :=
  ((calls.zip (replies calls output)).filter fun entry => entry.2.outcome.isOk).map Prod.fst

theorem accepted_eq_filter (calls : List (Call w)) (output : Array (BitVec w)) :
    accepted calls output = calls.filter fun call => (call.verdict output.size).isOk := by
  induction calls generalizing output with
  | nil => rfl
  | cons call rest ih =>
      have tail := ih (call.reply output).output
      rw [call.size_reply] at tail
      rw [accepted] at tail ⊢
      rw [replies, List.zip_cons_cons, List.filter_cons, List.filter_cons, call.outcome_reply,
        ← tail]
      split
      · rfl
      · rfl

theorem sum_addends (calls : List (Call w)) (output : Array (BitVec w)) (place : Nat) :
    (calls.map fun call => call.addend output.size place).sum =
      ((accepted calls output).map fun call => call.entryAt place).sum := by
  rw [accepted_eq_filter]
  induction calls with
  | nil => rfl
  | cons call rest ih =>
      rw [List.map_cons, List.sum_cons, ih, List.filter_cons, Call.addend]
      split
      · rw [List.map_cons, List.sum_cons]
      · exact BitVec.zero_add _

theorem fits_of_mem_accepted {calls : List (Call w)} {output : Array (BitVec w)}
    {call : Call w} (member : call ∈ accepted calls output) :
    call.shape.Fits call.input.size output.size := by
  rw [accepted_eq_filter] at member
  have passed := List.of_mem_filter member
  rw [Call.verdict] at passed
  apply Shape.check_eq_ok.mp
  cases checked : call.shape.check call.input.size output.size with
  | error error =>
      rw [checked] at passed
      cases passed
  | ok value => rfl

def Call.exactAt (type : IntegerType) (call : Call type.width) (place : Nat) : Int :=
  Exact.gram (call.input.map type.value) call.shape.cols (place / call.shape.rows)
    (place % call.shape.rows)

theorem Call.entryAt_eq_word (type : IntegerType) {call : Call type.width} {size place : Nat}
    (fits : call.shape.Fits call.input.size size) (inside : place < size) :
    call.entryAt place = type.word (call.exactAt type place) := by
  rw [fits.output] at inside
  have positive : 0 < call.shape.rows := Nat.pos_of_mul_pos_right (Nat.zero_lt_of_lt inside)
  exact contribution_eq_word type fits.input (Nat.div_lt_of_lt_mul inside)
    (Nat.mod_lt place positive)

theorem value_finalOutput (type : IntegerType) (calls : List (Call type.width))
    {output : Array (BitVec type.width)} {place : Nat} (inside : place < output.size) :
    type.value ((finalOutput calls output).getD place 0) =
      type.represent (type.value (output.getD place 0) +
        ((accepted calls output).map fun call => call.exactAt type place).sum) := by
  have words : (accepted calls output).map (fun call => call.entryAt place) =
      ((accepted calls output).map fun call => call.exactAt type place).map type.word := by
    rw [List.map_map]
    exact List.map_congr_left fun call member =>
      call.entryAt_eq_word type (fits_of_mem_accepted member) inside
  have stored : output.getD place 0 = output[place] :=
    Array.getElem_eq_getD 0 |>.symm
  rw [Array.getD_eq_getD_getElem?, getElem?_finalOutput, Array.getElem?_eq_getElem inside,
    Option.map_some, Option.getD_some, sum_addends, words, ← type.word_sum, stored,
    ← type.value_word, type.word_add, type.word_value]

/-- A session adds up exactly the matrices of the calls it accepted, and which those are depends on
neither their order nor their methods: every call has the outcome it would have on its own. -/
theorem session_exact (type : IntegerType) (calls : List (Call type.width))
    (output : Array (BitVec type.width)) :
    finalOutput calls output =
      ((replies calls output).getLast?.map Reply.output).getD output ∧
    (finalOutput calls output).size = output.size ∧
    (∀ place < output.size,
      type.value ((finalOutput calls output).getD place 0) =
        type.represent (type.value (output.getD place 0) +
          ((accepted calls output).map fun call => call.exactAt type place).sum)) ∧
    (replies calls output).map Reply.outcome =
      calls.map (fun call => (call.reply output).outcome) ∧
    (∀ others, calls.Perm others →
      finalOutput others output = finalOutput calls output ∧
      (others.zip ((replies others output).map Reply.outcome)).Perm
        (calls.zip ((replies calls output).map Reply.outcome))) ∧
    ∀ others, List.Forall₂ Call.Agrees calls others →
      finalOutput others output = finalOutput calls output ∧
      (replies others output).map Reply.outcome =
        (replies calls output).map Reply.outcome := by
  refine ⟨finalOutput_eq_last calls output, size_finalOutput calls output, ?_, ?_, ?_, ?_⟩
  · intro place inside
    exact value_finalOutput type calls inside
  · simp only [outcomes_replies, Call.outcome_reply]
  · intro others perm
    refine ⟨(finalOutput_perm perm output).symm, ?_⟩
    rw [outcomes_replies, outcomes_replies, ← List.map_prod_left_eq_zip,
      ← List.map_prod_left_eq_zip]
    exact (perm.map _).symm
  · intro others agree
    refine ⟨(finalOutput_agrees agree output).symm, ?_⟩
    rw [outcomes_replies, outcomes_replies]
    exact (map_eq_of_agrees agree fun same => by rw [same.verdict]).symm

/-- Between two accepted calls, the second of them split, a call whose matrix is too short is
refused and adds nothing. -/
theorem session_signed_bytes :
    0 < #[5#8].size ∧
      IntegerType.value ⟨true, 8⟩ ((finalOutput [⟨⟨1, 2⟩, .sequential, #[100#8, 3#8]⟩,
        ⟨⟨1, 2⟩, .sequential, #[1#8]⟩, ⟨⟨1, 1⟩, .parallel .inOrder, #[127#8]⟩]
          #[5#8]).getD 0 0) = 31 := by
  obtain ⟨-, -, entries, -⟩ := session_exact ⟨true, 8⟩
    [⟨⟨1, 2⟩, .sequential, #[100#8, 3#8]⟩, ⟨⟨1, 2⟩, .sequential, #[1#8]⟩,
      ⟨⟨1, 1⟩, .parallel .inOrder, #[127#8]⟩] #[5#8]
  refine ⟨by decide, (entries 0 (by decide)).trans ?_⟩
  decide +kernel

end ComputeBench.Gram
