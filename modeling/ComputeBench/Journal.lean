import ComputeBench.Fault

namespace ComputeBench

inductive Level where
  | debug
  | trace
  deriving DecidableEq, Repr

def Level.name : Level → String
  | .debug => "DEBUG"
  | .trace => "TRACE"

structure Entry where
  level : Level
  message : String
  deriving DecidableEq, Repr

def Entry.line (entry : Entry) : String :=
  entry.level.name ++ " " ++ entry.message

structure Traced (α : Type) where
  result : Except Fault α
  entries : List Entry

namespace Traced

variable {α β : Type}

def bind (first : Traced α) (next : α → Traced β) : Traced β :=
  match first.result with
  | .error fault => ⟨.error fault, first.entries⟩
  | .ok value => ⟨(next value).result, first.entries ++ (next value).entries⟩

instance : Monad Traced where
  pure value := ⟨.ok value, []⟩
  bind := Traced.bind

instance : MonadLift (Except Fault) Traced where
  monadLift result := ⟨result, []⟩

variable {value : α} {fault : Fault} {entries : List Entry} {next : α → Traced β}

theorem ok_bind : (⟨.ok value, entries⟩ >>= next) =
    (⟨(next value).result, entries ++ (next value).entries⟩ : Traced β) := rfl

theorem error_bind : (⟨.error fault, entries⟩ >>= next) =
    (⟨.error fault, entries⟩ : Traced β) := rfl

instance : LawfulMonad Traced := LawfulMonad.mk' Traced
  (by
    rintro α ⟨fault | value, entries⟩
    · rfl
    · exact congrArg (Traced.mk (.ok value)) entries.append_nil)
  (fun _ _ => rfl)
  (by
    rintro α β γ ⟨fault | value, entries⟩ next last
    · rfl
    · rw [ok_bind, ok_bind]
      rcases next value with ⟨fault | later, more⟩
      · rfl
      · exact congrArg (Traced.mk _) (List.append_assoc _ _ _))

theorem result_bind_eq_ok {first : Traced α} {last : β} :
    (first >>= next).result = .ok last ↔
      ∃ value, first.result = .ok value ∧ (next value).result = .ok last := by
  rcases first with ⟨fault | value, entries⟩
  · simp [error_bind]
  · simp [ok_bind]

theorem prefix_bind (first : Traced α) (next : α → Traced β) :
    first.entries <+: (first >>= next).entries := by
  rcases first with ⟨fault | value, entries⟩
  · exact List.prefix_rfl
  · exact List.prefix_append _ _

def noted (entry : α → Entry) (result : Except Fault α) : Traced α :=
  match result with
  | .ok value => ⟨.ok value, [entry value]⟩
  | .error fault => ⟨.error fault, []⟩

variable {result : Except Fault α} {entry : α → Entry}

@[simp] theorem result_noted : (noted entry result).result = result := by
  cases result <;> rfl

theorem entries_noted_of_ok (passed : result = .ok value) :
    (noted entry result).entries = [entry value] := by
  rw [passed]
  rfl

def outcome (call : Traced α) : Traced (Except Fault α) :=
  ⟨.ok call.result, call.entries⟩

end Traced

end ComputeBench
