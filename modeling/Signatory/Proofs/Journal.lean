import Signatory.Journal
import Signatory.Proofs.Outcome

/-!
# Operations with a journal

1. The result of a sequence of steps is that of the steps' results (`result_bind`), and its events
   are those of the steps that were taken (`events_bind`).
2. `IsQuiet`: an operation that does nothing besides its result but write log records. Quiet steps
   make a quiet operation (`IsQuiet.bind`).
-/

namespace Signatory.Traced

variable {α β : Type}

/-! ## Steps -/

instance : LawfulMonad Traced :=
  LawfulMonad.mk' Traced
    (fun t => by
      obtain ⟨r, es⟩ := t
      cases r with
      | error e => rfl
      | ok a => exact congrArg (Traced.mk _) (List.append_nil es))
    (fun a next => pure_bind a next)
    (fun t f g => bind_assoc t f g)

@[simp] theorem result_bind (t : Traced α) (next : α → Traced β) :
    (t >>= next).result = t.result >>= fun a => (next a).result := by
  obtain ⟨r, es⟩ := t
  cases r <;> rfl

theorem events_bind (t : Traced α) (next : α → Traced β) :
    (t >>= next).events = t.events ++
      match t.result with
      | .ok a => (next a).events
      | .error _ => [] := by
  obtain ⟨r, es⟩ := t
  cases r with
  | error e => exact (List.append_nil es).symm
  | ok a => rfl

@[simp] theorem result_pure (a : α) : (Pure.pure a : Traced α).result = .ok a := rfl

@[simp] theorem result_liftM (r : Except Failure α) : (liftM r : Traced α).result = r := rfl

theorem liftM_ok_bind (a : α) (next : α → Traced β) :
    (liftM (.ok a : Except Failure α) : Traced α) >>= next = next a := rfl

@[simp] theorem result_debug (source : LogSource) (text : String) :
    (debug source text).result = .ok () := rfl

@[simp] theorem result_withKey (k : KeyHandle) (use : KeyHandle → Traced α) :
    (withKey k use).result = (use k).result := rfl

/-! ## Quiet operations -/

/-- No event but log records. -/
def IsQuiet (t : Traced α) : Prop :=
  ∀ e ∈ t.events, ∃ record, e = .logged record

theorem isQuiet_pure (a : α) : IsQuiet (Pure.pure a : Traced α) :=
  List.forall_mem_nil _

theorem isQuiet_fail (f : Failure) : IsQuiet (fail f : Traced α) :=
  List.forall_mem_nil _

theorem isQuiet_liftM (r : Except Failure α) : IsQuiet (liftM r : Traced α) :=
  List.forall_mem_nil _

theorem isQuiet_log (source : LogSource) (level : LogLevel) (text : String) :
    IsQuiet (log source level text) :=
  List.forall_mem_singleton.2 ⟨_, rfl⟩

theorem isQuiet_debug (source : LogSource) (text : String) : IsQuiet (debug source text) :=
  isQuiet_log source .debug text

theorem IsQuiet.bind {t : Traced α} {next : α → Traced β} (ht : t.IsQuiet)
    (hnext : ∀ a, (next a).IsQuiet) : (t >>= next).IsQuiet := by
  unfold IsQuiet
  rw [events_bind, List.forall_mem_append]
  refine ⟨ht, ?_⟩
  cases t.result with
  | error e => exact List.forall_mem_nil _
  | ok a => exact hnext a

end Signatory.Traced
