import Mathlib
import ComputeBench.Proofs.Message.MatrixOutcome
import ComputeBench.Proofs.Message.WalkOutcome
import ComputeBench.Proofs.Service.Calls
import ComputeBench.Proofs.Workload.Walks
import ComputeBench.Service.Session

namespace ComputeBench.Service

namespace Command

variable {command : Command} {buffer after : Bytes} {report : Report} {fault : Fault}

/-- What a command leaves and answers, its entries apart. -/
def next (command : Command) (buffer : Bytes) : Step :=
  match (command.perform buffer).result with
  | .ok (after, report) => ⟨after, .ok report⟩
  | .error fault => ⟨buffer, .error fault⟩

theorem next_of_ok (performed : (command.perform buffer).result = .ok (after, report)) :
    command.next buffer = ⟨after, .ok report⟩ := by
  rw [next, performed]

theorem next_of_error (failed : (command.perform buffer).result = .error fault) :
    command.next buffer = ⟨buffer, .error fault⟩ := by
  rw [next, failed]

/-- A step never fails: a command that does leaves the buffer and says why. -/
theorem step_eq (command : Command) (buffer : Bytes) :
    command.step buffer = ⟨.ok (command.next buffer), (command.perform buffer).entries⟩ := by
  rw [step, next]
  rcases command.perform buffer with ⟨fault | ⟨after, report⟩, entries⟩
  · exact congrArg (Traced.mk _) entries.append_nil
  · exact congrArg (Traced.mk _) entries.append_nil

theorem buffer_of_failed (failed : (command.next buffer).result = .error fault) :
    (command.next buffer).buffer = buffer := by
  rcases performed : (command.perform buffer).result with reason | ⟨after, report⟩
  · rw [next_of_error performed]
  · rw [next_of_ok performed] at failed
    cases failed

/-- The commands that leave the buffer, or write back what they have read in it. -/
inductive Reads : Command → Prop where
  | decodeWalk : Reads .decodeWalk
  | reencodeWalk : Reads .reencodeWalk
  | decodeTally : Reads .decodeTally
  | countRecords : Reads .countRecords
  | decodeMatrix : Reads .decodeMatrix
  | reencodeMatrix : Reads .reencodeMatrix
  | decodeResponse : Reads .decodeResponse

theorem after_of_reads (reading : command.Reads)
    (performed : (command.perform buffer).result = .ok (after, report)) : after = buffer := by
  cases reading <;> obtain ⟨message, read, left⟩ := Traced.result_bind_eq_ok.mp performed
  case reencodeWalk =>
    cases left
    exact WalkRequest.encode_of_decode (decodeWalk_eq_ok.mp read)
  case reencodeMatrix =>
    obtain ⟨bytes, written, same⟩ := Traced.result_bind_eq_ok.mp left
    cases same
    have encoded := (writeMatrix_eq_ok.mp (lift_aborting_eq_ok.mp written)).2
    exact encoded.symm.trans (MatrixRequest.encode_of_decode (decodeMatrix_eq_ok.mp read))
  all_goals
    cases left
    rfl

theorem buffer_of_reads (reading : command.Reads) (buffer : Bytes) :
    (command.next buffer).buffer = buffer := by
  rcases performed : (command.perform buffer).result with fault | ⟨after, report⟩
  · rw [next_of_error performed]
  · rw [next_of_ok performed]
    exact after_of_reads reading performed

theorem perform_decodeTally_eq_ok {tally : Tally} (read : Tally.decode buffer = .ok tally) :
    (decodeTally.perform buffer).result = .ok (buffer, .tally tally) := by
  rw [perform, read]
  rfl

theorem decodeTally_of_runWalk
    (ran : (runWalk.perform buffer).result = .ok (after, report)) :
    decodeTally.next after = ⟨after, .ok report⟩ := by
  obtain ⟨request, -, answered⟩ := Traced.result_bind_eq_ok.mp ran
  obtain ⟨tally, -, left⟩ := Traced.result_bind_eq_ok.mp answered
  cases left
  exact next_of_ok (perform_decodeTally_eq_ok tally.decode_encode)

theorem next_runWalk {request : WalkRequest} {tally : Tally}
    (read : WalkRequest.decode buffer = .ok request) (ran : request.run = .ok tally) :
    runWalk.next buffer = ⟨tally.encode, .ok (.tally tally)⟩ := by
  apply next_of_ok
  refine Traced.result_bind_eq_ok.mpr ⟨request, decodeWalk_eq_ok.mpr read, ?_⟩
  exact Traced.result_bind_eq_ok.mpr ⟨tally, Traced.result_noted.trans ran, rfl⟩

theorem next_generateWalk {iterations : UInt64} {byteCount : Nat} {bytes : Bytes}
    (generated : Workload.walkRequest iterations byteCount = .ok bytes) :
    (generateWalk iterations byteCount).next buffer = ⟨bytes, .ok .done⟩ := by
  apply next_of_ok
  rw [perform, generated]
  rfl

theorem next_reencodeMatrix {request : MatrixRequest} (stored : buffer.length ≤ maxAllocation)
    (read : MatrixRequest.decode buffer = .ok request) :
    reencodeMatrix.next buffer = ⟨buffer, .ok .done⟩ := by
  have written : (liftM request.write : Except Fault Bytes) = .ok buffer :=
    lift_aborting_eq_ok.mpr (MatrixRequest.write_of_decode read stored)
  apply next_of_ok
  refine Traced.result_bind_eq_ok.mpr ⟨request, decodeMatrix_eq_ok.mpr read, ?_⟩
  exact Traced.result_bind_eq_ok.mpr ⟨buffer, written, rfl⟩

/-- A request that is read stays in the journal, whatever becomes of its product. -/
theorem noted_of_runMatrix {request : MatrixRequest}
    (read : MatrixRequest.decode buffer = .ok request) :
    [matrixEntry request] <+: (runMatrix.perform buffer).entries := by
  have noted : (Service.decodeMatrix buffer).entries = [matrixEntry request] :=
    Traced.entries_noted_of_ok (refusing_eq_ok.mpr read)
  rw [← noted]
  exact Traced.prefix_bind _ _

theorem silent_of_runMatrix {error : Error}
    (unread : MatrixRequest.decode buffer = .error error) :
    (runMatrix.perform buffer).entries = [] := by
  rw [perform, Service.decodeMatrix, unread]
  rfl

theorem decodeResponse_of_runMatrix
    (ran : (runMatrix.perform buffer).result = .ok (after, report)) :
    ∃ request, MatrixRequest.decode buffer = .ok request ∧
      decodeResponse.next after =
        ⟨after, .ok (.response ⟨request.rows, request.gram⟩)⟩ := by
  obtain ⟨request, read, answered⟩ := Traced.result_bind_eq_ok.mp ran
  obtain ⟨response, product, left⟩ := Traced.result_bind_eq_ok.mp answered
  rw [Service.runMatrix, Traced.result_noted] at product
  obtain ⟨answerable, rfl⟩ := MatrixRequest.answerable_of_run product
  cases left
  have reread := request.decode_answer answerable.storable
  refine ⟨request, decodeMatrix_eq_ok.mp read, next_of_ok ?_⟩
  rw [perform, reread]
  rfl

end Command

def steps : List Command → Bytes → List Step
  | [], _ => []
  | command :: rest, buffer =>
      command.next buffer :: steps rest (command.next buffer).buffer

def written : List Command → Bytes → List Entry
  | [], _ => []
  | command :: rest, buffer =>
      (command.perform buffer).entries ++ written rest (command.next buffer).buffer

def final (commands : List Command) (buffer : Bytes) : Bytes :=
  commands.foldl (fun buffer command => (command.next buffer).buffer) buffer

variable {commands first second : List Command} {buffer : Bytes}

theorem session_eq (commands : List Command) (buffer : Bytes) :
    session commands buffer = ⟨.ok (steps commands buffer), written commands buffer⟩ := by
  induction commands generalizing buffer with
  | nil => rfl
  | cons command rest ih =>
      rw [session, command.step_eq, Traced.ok_bind, ih, steps, written]
      exact congrArg (fun later => Traced.mk _ (_ ++ later)) (List.append_nil _)

theorem length_steps (commands : List Command) (buffer : Bytes) :
    (steps commands buffer).length = commands.length := by
  induction commands generalizing buffer with
  | nil => rfl
  | cons command rest ih => rw [steps, List.length_cons, ih, List.length_cons]

theorem steps_append (first second : List Command) (buffer : Bytes) :
    steps (first ++ second) buffer = steps first buffer ++ steps second (final first buffer) := by
  induction first generalizing buffer with
  | nil => rfl
  | cons command rest ih =>
      rw [List.cons_append, steps, ih, steps]
      rfl

theorem written_append (first second : List Command) (buffer : Bytes) :
    written (first ++ second) buffer =
      written first buffer ++ written second (final first buffer) := by
  induction first generalizing buffer with
  | nil => rfl
  | cons command rest ih =>
      rw [List.cons_append, written, ih, written, List.append_assoc]
      rfl

theorem final_preserves {holds : Bytes → Prop}
    (kept : ∀ command ∈ commands, ∀ buffer, holds buffer → holds (command.next buffer).buffer)
    (start : holds buffer) : holds (final commands buffer) := by
  induction commands generalizing buffer with
  | nil => exact start
  | cons command rest ih =>
      apply ih
      · exact fun other member => kept other (List.mem_cons_of_mem command member)
      · exact kept command List.mem_cons_self buffer start

theorem final_of_reads (reading : ∀ command ∈ commands, command.Reads) (buffer : Bytes) :
    final commands buffer = buffer :=
  final_preserves (fun command member other same =>
    (command.buffer_of_reads (reading command member) other).trans same) rfl

def effective : List Command → Bytes → List Command
  | [], _ => []
  | command :: rest, buffer =>
      match (command.next buffer).result with
      | .ok _ => command :: effective rest (command.next buffer).buffer
      | .error _ => effective rest buffer

/-- Commands that fail may be left out: the others are answered as before. -/
theorem steps_effective (commands : List Command) (buffer : Bytes) :
    steps (effective commands buffer) buffer =
      (steps commands buffer).filter (·.result.isOk) := by
  induction commands generalizing buffer with
  | nil => rfl
  | cons command rest ih =>
      rw [effective, steps, List.filter_cons]
      cases answered : (command.next buffer).result with
      | ok report => rw [steps, ih]; rfl
      | error fault => rw [ih, command.buffer_of_failed answered]; rfl

theorem final_effective (commands : List Command) (buffer : Bytes) :
    final (effective commands buffer) buffer = final commands buffer := by
  induction commands generalizing buffer with
  | nil => rfl
  | cons command rest ih =>
      rw [effective]
      cases answered : (command.next buffer).result with
      | ok report => exact ih _
      | error fault =>
          have left := Command.buffer_of_failed answered
          exact (ih buffer).trans (congrArg (final rest) left.symm)

theorem final_generated_walk (iterations : UInt64) {byteCount : Nat}
    (fits : byteCount ≤ 2 ^ 63 - 8) (buffer : Bytes) :
    final [.generateWalk iterations byteCount, .runWalk, .decodeTally] buffer =
      (Workload.expectedTally iterations).encode := by
  have positive := Workload.recordCount_pos byteCount
  have carried : 0 < (Array.replicate (Workload.recordCount byteCount) Record.sample).size := by
    rwa [Array.size_replicate]
  have ran := Workload.run_of_replicate iterations positive (Workload.recordCount_le fits)
  have answered := Command.next_runWalk (WalkRequest.decode_encode_of_carried carried) ran
  simp only [final, List.foldl_cons, List.foldl_nil,
    Command.next_generateWalk (Workload.walkRequest_eq iterations fits), answered]
  exact Command.buffer_of_reads .decodeTally _

end ComputeBench.Service
