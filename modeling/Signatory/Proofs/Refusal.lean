import Signatory.ChainTable
import Signatory.Model.Checked
import Signatory.Proofs.Outcome

/-!
# Refusals

Refusals are the failures that a caller is meant to handle. An integer of too many digits may end
in a failure that is none, so most statements here are about `Failure.RefusesUnless long`: a
refusal, unless there is such an integer.

1. `Value.failsIn_literal`: a value has a literal unless it holds such an integer or is nested too
   deep.
2. `Tag.failsIn_ofValue`: the same for reading a chain's tag.
-/

namespace Signatory

open Outcome

/-! ## Integers of too many digits -/

/-- A refusal, or the failure for an integer of too many digits where there is one. -/
def Failure.RefusesUnless (long : Prop) (f : Failure) : Prop :=
  f.isRefusal = true ∨ f = .tooManyDigits ∧ long

/-- One of the integers has too many digits. -/
def HasLong (ns : List Int) : Prop :=
  ∃ n ∈ ns, Text.exceedsDigitLimit n = true

instance (ns : List Int) : Decidable (HasLong ns) :=
  inferInstanceAs (Decidable (∃ n ∈ ns, _))

theorem hasLong_append {ms ns : List Int} : HasLong (ms ++ ns) ↔ HasLong ms ∨ HasLong ns := by
  unfold HasLong
  simp only [List.mem_append, or_and_right, exists_or]

theorem not_hasLong_nil : ¬ HasLong [] := by
  rintro ⟨n, hn, -⟩
  exact absurd hn List.not_mem_nil

theorem Failure.isRefusal_of_code {f : Failure} {code : ErrorCode} (h : f.code? = some code) :
    f.isRefusal = true := by
  unfold isRefusal
  rw [h]
  rfl

/-- A refusal as malformed that names the field at fault. -/
def Failure.IsMalformed (field : String) (f : Failure) : Prop :=
  f.code? = some .malformedIntent ∧ f.field? = some field

theorem Outcome.FailsIn.weaken {α : Type} {x : Except Failure α} {long long' : Prop}
    (hx : FailsIn (Failure.RefusesUnless long) x) (hlong : long → long') :
    FailsIn (Failure.RefusesUnless long') x :=
  hx.imp fun _ hf => hf.imp_right fun h => ⟨h.1, hlong h.2⟩

/-! ## Literals -/

namespace Value

mutual

/-- The integers that a value holds. -/
def integers : Value → List Int
  | .int n => [n]
  | .list items => itemIntegers items
  | .object fields => fieldIntegers fields
  | .null | .bool _ | .float _ | .text _ | .bytes _ => []

def itemIntegers : List Value → List Int
  | [] => []
  | v :: vs => integers v ++ itemIntegers vs

def fieldIntegers : List (String × Value) → List Int
  | [] => []
  | (_, v) :: fs => integers v ++ fieldIntegers fs

end

mutual

/-- How many calls the literal of a value takes. -/
def calls : Value → Nat
  | .list items => 1 + itemCalls items
  | .object fields => 1 + fieldCalls fields
  | .null | .bool _ | .int _ | .float _ | .text _ | .bytes _ => 1

def itemCalls : List Value → Nat
  | [] => 0
  | v :: vs => max (calls v) (itemCalls vs)

def fieldCalls : List (String × Value) → Nat
  | [] => 0
  | (_, v) :: fs => max (calls v) (fieldCalls fs)

end

/-- What may keep some values from having literals. -/
def IsLiteralFault (ns : List Int) (calls room : Nat) (f : Failure) : Prop :=
  f = .tooManyDigits ∧ HasLong ns ∨ f = .nestedTooDeep ∧ room < calls

theorem IsLiteralFault.left {ms ns : List Int} {k l room : Nat} {f : Failure}
    (h : IsLiteralFault ms k room f) : IsLiteralFault (ms ++ ns) (max k l) room f :=
  h.imp (And.imp_right fun h => hasLong_append.2 (.inl h)) (And.imp_right fun h => by omega)

theorem IsLiteralFault.right {ms ns : List Int} {k l room : Nat} {f : Failure}
    (h : IsLiteralFault ns l room f) : IsLiteralFault (ms ++ ns) (max k l) room f :=
  h.imp (And.imp_right fun h => hasLong_append.2 (.inr h)) (And.imp_right fun h => by omega)

theorem IsLiteralFault.inside {ns : List Int} {k room : Nat} {f : Failure}
    (h : IsLiteralFault ns k room f) : IsLiteralFault ns (1 + k) (room + 1) f :=
  h.imp_right (And.imp_right fun h => by omega)

mutual

/-- A value has a literal unless it holds an integer of too many digits or is nested too deep. -/
theorem failsIn_literal : ∀ (v : Value) (room : Nat),
    FailsIn (IsLiteralFault v.integers v.calls room) (v.literal room)
  | v, 0 => by
    have hcalls : 0 < v.calls := by
      cases v <;> rw [calls] <;> omega
    rw [literal]
    exact failsIn_error (.inr ⟨rfl, hcalls⟩)
  | .null, _ + 1 | .bool _, _ + 1 | .float _, _ + 1 | .text _, _ + 1 | .bytes _, _ + 1 => by
    rw [literal]
    exact failsIn_ok _
  | .int n, _ + 1 => by
    rw [literal, integers]
    split
    · rename_i hlong
      exact failsIn_error (.inl ⟨rfl, n, List.mem_singleton_self n, hlong⟩)
    · exact failsIn_ok _
  | .list items, room + 1 => by
    rw [literal, integers, calls]
    exact ((failsIn_itemLiterals items room).imp fun _ hf => hf.inside).bind fun _ _ => failsIn_ok _
  | .object fields, room + 1 => by
    rw [literal, integers, calls]
    exact ((failsIn_fieldLiterals fields room).imp fun _ hf => hf.inside).bind
      fun _ _ => failsIn_ok _

theorem failsIn_itemLiterals : ∀ (vs : List Value) (room : Nat),
    FailsIn (IsLiteralFault (itemIntegers vs) (itemCalls vs) room) (itemLiterals vs room)
  | [], _ => by
    rw [itemLiterals]
    exact failsIn_ok _
  | v :: vs, room => by
    rw [itemLiterals, itemIntegers, itemCalls]
    refine ((failsIn_literal v room).imp fun _ hf => hf.left).bind fun _ _ => ?_
    exact ((failsIn_itemLiterals vs room).imp fun _ hf => hf.right).bind fun _ _ => failsIn_ok _

theorem failsIn_fieldLiterals : ∀ (fs : List (String × Value)) (room : Nat),
    FailsIn (IsLiteralFault (fieldIntegers fs) (fieldCalls fs) room) (fieldLiterals fs room)
  | [], _ => by
    rw [fieldLiterals]
    exact failsIn_ok _
  | (_, v) :: fs, room => by
    rw [fieldLiterals, fieldIntegers, fieldCalls]
    refine ((failsIn_literal v room).imp fun _ hf => hf.left).bind fun _ _ => ?_
    exact ((failsIn_fieldLiterals fs room).imp fun _ hf => hf.right).bind fun _ _ => failsIn_ok _

end

theorem failsIn_plain (v : Value) :
    FailsIn (IsLiteralFault v.integers v.calls literalRoom) v.plain := by
  unfold plain
  split
  · exact failsIn_ok _
  · exact failsIn_literal _ _

end Value

/-! ## Models -/

theorem Model.readJson_eq_error {α : Type} {m : Model α} {s : String} {f : Failure}
    (h : m.readJson s = .error f) : ∃ issues, f = .invalidModel issues := by
  unfold readJson read at h
  split at h
  · split at h
    · cases h
    · exact ⟨_, (Except.error.inj h).symm⟩
  · exact ⟨_, (Except.error.inj h).symm⟩

/-! ## Tags -/

/-- A tag is read unless it holds an integer of too many digits or is nested too deep. -/
theorem Tag.failsIn_ofValue (tag : Value) :
    FailsIn (Value.IsLiteralFault tag.integers tag.calls Value.literalRoom) (ofValue tag) := by
  unfold ofValue
  split
  · exact failsIn_ok _
  · exact (Value.failsIn_plain tag).bind fun _ _ => failsIn_ok _

end Signatory
