import Signatory.Keys.Service
import Signatory.Proofs.ChainTable
import Signatory.Proofs.Journal
import Signatory.Proofs.Refusal

/-!
# How keys fail

Deriving a key, its public key and a signature may fail in many ways, but each failure is reported
as one of the two kinds that concern keys (`Failure.IsKeyFailure`).

1. `failsIn_derive`: opening the handle of an account.
2. `failsIn_publicKey` and `failsIn_sign`: using a handle.
-/

namespace Signatory

open Outcome

/-- The refusals that concern a key: it cannot be derived, or it cannot sign. -/
def Failure.IsKeyFailure (f : Failure) : Prop :=
  f.code? = some .derivationError ∨ f.code? = some .signingFailure

/-- The failures of a primitive. A refusal concerns the key; any other failure is reported as one
that does. -/
def Failure.IsOfPrimitive (f : Failure) : Prop :=
  f.isRefusal = true → f.IsKeyFailure

theorem Failure.IsKeyFailure.isRefusal {f : Failure} (h : f.IsKeyFailure) : f.isRefusal = true :=
  h.elim isRefusal_of_code isRefusal_of_code

/-! ## Primitives -/

/-- Primitives that refuse only what concerns the key. -/
structure Primitives.IsTame (p : Primitives) : Prop where
  deriveSecret : ∀ seed path, FailsIn Failure.IsOfPrimitive (p.deriveSecret seed path)
  publicKey : ∀ secret, FailsIn Failure.IsOfPrimitive (p.publicKey secret)
  sign : ∀ message secret, FailsIn Failure.IsOfPrimitive (p.sign message secret)

namespace Primitives

theorem isOfPrimitive_noAnswer : Failure.noAnswer.IsOfPrimitive := by
  intro h
  cases h

theorem isOfPrimitive_secretOutOfRange (c : Curve) :
    (Failure.secretOutOfRange c).IsOfPrimitive :=
  fun _ => .inr rfl

theorem failsIn_answer {α : Type} (a : Option α) : FailsIn (· = .noAnswer) (answer a) := by
  cases a with
  | none => exact failsIn_error rfl
  | some a => exact failsIn_ok a

theorem failsIn_checkSecp256k1 (secret : Bytes) :
    FailsIn (· = .secretOutOfRange .secp256k1) (checkSecp256k1 secret) := by
  unfold checkSecp256k1
  dsimp only
  split
  · exact failsIn_ok ()
  · exact failsIn_error rfl

theorem failsIn_starkScalar (secret : Bytes) :
    FailsIn (· = .secretOutOfRange .stark) (starkScalar secret) := by
  unfold starkScalar
  dsimp only
  split
  · exact failsIn_ok _
  · exact failsIn_error rfl

theorem failsIn_starkMessage (message : Bytes) :
    FailsIn Failure.IsOfPrimitive (starkMessage message) := by
  unfold starkMessage
  split
  · exact failsIn_error fun _ => .inr rfl
  · dsimp only
    split
    · exact failsIn_ok _
    · exact failsIn_error fun _ => .inr rfl

theorem failsIn_grindSecret (material : Bytes) (path : String) :
    FailsIn Failure.IsOfPrimitive (grindSecret material path) := by
  have hkey : FailsIn Failure.IsOfPrimitive
      (Grind.key Grind.sha256 material Weierstrass.stark.order) := by
    unfold Grind.key
    split
    · exact failsIn_error fun h => by cases h
    · split
      · exact failsIn_ok _
      · exact failsIn_error isOfPrimitive_noAnswer
  refine hkey.bind fun k _ => ?_
  split
  · exact failsIn_error fun _ => .inl rfl
  · exact failsIn_ok _

end Primitives

/-- The primitives over any schemes are tame: a scheme only has no answer. -/
theorem Schemes.isTame_primitives (s : Schemes) (c : Curve) : (s.primitives c).IsTame := by
  have hanswer : ∀ {α : Type} (a : Option α), FailsIn Failure.IsOfPrimitive (Primitives.answer a) :=
    fun a => (Primitives.failsIn_answer a).imp fun _ hf => hf ▸ Primitives.isOfPrimitive_noAnswer
  have hrange : ∀ {c : Curve} (f : Failure), f = .secretOutOfRange c → f.IsOfPrimitive :=
    fun _ hf => hf ▸ Primitives.isOfPrimitive_secretOutOfRange _
  cases c with
  | ed25519 => exact ⟨fun _ _ => hanswer _, fun _ => hanswer _, fun _ _ => hanswer _⟩
  | secp256k1 =>
    have hcheck := fun secret => (Primitives.failsIn_checkSecp256k1 secret).imp hrange
    refine ⟨fun _ _ => hanswer _, fun secret => ?_, fun message secret => ?_⟩
    · exact (hcheck secret).bind fun _ _ => hanswer _
    · refine (hcheck secret).bind fun _ _ => ?_
      exact (hanswer _).bind fun _ _ => failsIn_ok _
  | p256 =>
    refine ⟨fun _ _ => hanswer _, fun _ => hanswer _, fun message secret => ?_⟩
    exact (hanswer _).bind fun _ _ => failsIn_ok _
  | stark =>
    have hscalar := fun secret => (Primitives.failsIn_starkScalar secret).imp hrange
    refine ⟨fun seed path => ?_, fun secret => ?_, fun message secret => ?_⟩
    · exact (hanswer _).bind fun material _ => Primitives.failsIn_grindSecret material path
    · exact (hscalar secret).bind fun _ _ => failsIn_ok _
    · refine (Primitives.failsIn_starkMessage message).bind fun z _ => ?_
      refine (hscalar secret).bind fun n _ => ?_
      exact (hanswer _).bind fun _ _ => failsIn_ok _

/-! ## Backends -/

namespace Backend

variable {b : Backend}

theorem failsIn_run {α : Type} {use : PrimitiveUse} {wrapped : Failure} {r : Except Failure α}
    (hr : FailsIn Failure.IsOfPrimitive r) (hw : wrapped.IsKeyFailure) :
    FailsIn Failure.IsKeyFailure (b.run use wrapped r).result := by
  cases r with
  | ok a => exact failsIn_ok a
  | error f =>
    refine failsIn_error ?_
    split
    · rename_i hf
      exact hr f rfl hf
    · exact hw

theorem code_of_checkHandle {key : Option KeyHandle} {f : Failure}
    (h : b.checkHandle key = .error f) : f.code? = some .signingFailure := by
  unfold checkHandle at h
  split at h
  · cases h
    rfl
  · split at h
    · cases h
    · cases h
      rfl

theorem failsIn_checkHandle (key : Option KeyHandle) :
    FailsIn Failure.IsKeyFailure (b.checkHandle key) :=
  fun _ h => .inr (code_of_checkHandle h)

theorem code_of_consume {p p' : Payload} {f : Failure} (h : p.consume = (.error f, p')) :
    f.code? = some .signingFailure := by
  unfold Payload.consume at h
  split at h
  · obtain rfl : Failure.payloadConsumed = f := Except.error.inj (Prod.mk.inj h).1
    rfl
  · cases (Prod.mk.inj h).1

theorem failsIn_material (key : KeyHandle) : FailsIn Failure.IsKeyFailure key.material := by
  unfold KeyHandle.material
  split
  · exact failsIn_error (.inr rfl)
  · exact failsIn_ok _

theorem failsIn_deriveKey (hb : b.primitives.IsTame) (seed : Bytes) (path : String) :
    FailsIn Failure.IsKeyFailure (b.deriveKey seed path).result := by
  unfold deriveKey
  split
  · exact failsIn_error (.inl rfl)
  · split
    · exact failsIn_error (.inl rfl)
    · rw [Traced.result_bind]
      refine (failsIn_run (hb.deriveSecret seed path) (.inl rfl)).bind fun secret _ => ?_
      exact failsIn_ok _

theorem failsIn_publicKey (hb : b.primitives.IsTame) (key : KeyHandle) :
    FailsIn Failure.IsKeyFailure (b.publicKey key).result := by
  unfold publicKey
  rw [Traced.result_bind]
  refine (failsIn_checkHandle (some key)).bind fun key _ => ?_
  rw [Traced.result_bind]
  refine (failsIn_material key).bind fun secret _ => ?_
  exact failsIn_run (hb.publicKey secret) (.inr rfl)

theorem failsIn_signMessage (hb : b.primitives.IsTame) (message : Bytes) (key : KeyHandle) :
    FailsIn Failure.IsKeyFailure (b.signMessage message key).result := by
  unfold signMessage
  rw [Traced.result_bind]
  refine (failsIn_material key).bind fun secret _ => ?_
  rw [Traced.result_bind]
  refine (failsIn_run (hb.sign message secret) (.inr rfl)).bind fun value _ => ?_
  exact failsIn_ok _

theorem failsIn_sign (hb : b.primitives.IsTame) (payload : Payload) (key : Option KeyHandle) :
    FailsIn Failure.IsKeyFailure (b.sign payload key).1.result := by
  unfold sign
  split
  · rename_i f hf
    exact failsIn_error (failsIn_checkHandle key f hf)
  · split
    · rename_i f payload' hconsume
      exact failsIn_error (.inr (code_of_consume hconsume))
    · exact failsIn_signMessage hb _ _

end Backend

/-! ## The key service -/

namespace KeyService

open ChainTable

variable {t : ChainTable} {chain : String}

theorem failsIn_locate (hs : t.Serves chain) (hchain : Tag.ofValue (.text chain) = .ok chain)
    (path : Option String) (choice : CurveChoice) :
    FailsIn Failure.IsKeyFailure (locate t (.text chain) path choice) := by
  refine FailsIn.bind (fun f hf => .inl (code_of_findCurve hs hchain hf)) fun curve _ => ?_
  split
  · exact failsIn_ok _
  · refine FailsIn.bind (fun f hf => .inl (code_of_defaultPath hs hchain hf)) fun _ _ => ?_
    exact failsIn_ok _

theorem failsIn_derive {s : KeyService} (hkeys : ∀ c, (s.backend c).primitives.IsTame)
    (hs : t.Serves chain) (hchain : Tag.ofValue (.text chain) = .ok chain) (seed : Bytes)
    (path : Option String) (choice : CurveChoice) :
    FailsIn Failure.IsKeyFailure (s.derive t seed (.text chain) path choice).result := by
  unfold derive
  simp only [Traced.result_bind]
  refine (failsIn_ok _).bind fun _ _ => (failsIn_locate hs hchain path choice).bind fun x _ => ?_
  refine (failsIn_of_eq_ok hchain).bind fun tag _ => (failsIn_ok _).bind fun _ _ => ?_
  exact Backend.failsIn_deriveKey (hkeys x.1) seed x.2

end KeyService

end Signatory
