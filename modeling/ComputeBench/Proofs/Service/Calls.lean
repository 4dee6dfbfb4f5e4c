import Mathlib
import ComputeBench.Proofs.Gram.Session
import ComputeBench.Service.Calls

namespace ComputeBench.Service

theorem refusing_eq_ok {α : Type} {result : Except Error α} {value : α} :
    refusing result = .ok value ↔ result = .ok value := by
  cases result <;> simp [refusing, Except.mapError]

theorem decodeWalk_eq_ok {bytes : Bytes} {request : WalkRequest} :
    (decodeWalk bytes).result = .ok request ↔ WalkRequest.decode bytes = .ok request := by
  rw [decodeWalk, Traced.result_noted, refusing_eq_ok]

theorem decodeMatrix_eq_ok {bytes : Bytes} {request : MatrixRequest} :
    (decodeMatrix bytes).result = .ok request ↔ MatrixRequest.decode bytes = .ok request := by
  rw [decodeMatrix, Traced.result_noted, refusing_eq_ok]

/-- A session of products notes the calls it accepts, in the order they were made. -/
theorem entries_productSession {w : Nat} (workers : Nat) (calls : List (Gram.Call w))
    (output : Array (BitVec w)) :
    (productSession workers calls output).entries =
      (Gram.accepted calls output).map (callEntry workers) := by
  rw [productSession, Gram.accepted, List.map_map, ← List.filterMap_eq_map,
    List.filterMap_filter]
  apply List.filterMap_congr
  rintro ⟨call, outcome, buffer⟩ _
  cases outcome with
  | ok passed => rfl
  | error fault => rfl

variable {codec : Image.Codec} {bytes : Bytes}

theorem recodeBy_of_decoded {header : Qoi.Header} {pixels : Bytes}
    (decoded : codec.decodeImage bytes = .ok (header, pixels)) :
    recodeBy codec bytes =
      ⟨refusing (codec.encodeImage header pixels), [recodeEntry header bytes]⟩ := by
  rw [recodeBy, decoded]
  rfl

theorem recodeBy_of_undecoded {error : Error}
    (failed : codec.decodeImage bytes = .error error) :
    recodeBy codec bytes = ⟨.error (.refused error), []⟩ := by
  rw [recodeBy, failed]
  rfl

theorem result_recodeBy (codec : Image.Codec) (bytes : Bytes) :
    (recodeBy codec bytes).result = refusing (codec.recode bytes) := by
  rw [Image.Codec.recode]
  rcases decoded : codec.decodeImage bytes with error | ⟨header, pixels⟩
  · rw [recodeBy_of_undecoded decoded]
    rfl
  · rw [recodeBy_of_decoded decoded]
    rfl

end ComputeBench.Service
