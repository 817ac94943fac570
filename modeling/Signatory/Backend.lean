import Signatory.Journal
import Signatory.Payload
import Signatory.Primitives

/-!
# Backends

A backend works with key handles and payloads on one curve. It checks that a handle
belongs to its curve, lets a primitive work on the secret, and turns the failures of
primitives into refusals.
-/

namespace Signatory

/-- The backend of a curve over its primitives. -/
structure Backend where
  curve : Curve
  primitives : Primitives

namespace Backend

/-- Runs a primitive. Refusals pass; any other failure is reported as `wrapped`. -/
def run {α : Type} (b : Backend) (use : PrimitiveUse) (wrapped : Failure)
    (r : Except Failure α) : Traced α :=
  ⟨match r with
    | .ok a => .ok a
    | .error f => .error (if f.isRefusal then f else wrapped),
   [.primitive b.curve use]⟩

/-- Opens a handle of the key at a path below a seed. -/
def deriveKey (b : Backend) (seed : Bytes) (path : String) : Traced KeyHandle := do
  if seed.isEmpty then Traced.fail .emptySeed
  else if path.toList.head? ≠ some 'm' then Traced.fail (.invalidPath path)
  else
    let secret ← b.run .deriveSecret (.underivable b.curve path)
      (b.primitives.deriveSecret seed path)
    let key := KeyHandle.make b.curve path secret
    .note (.opened key)
    pure key

/-- A handle must be given and belong to the curve. -/
def checkHandle (b : Backend) : Option KeyHandle → Except Failure KeyHandle
  | none => .error .noKey
  | some key => if key.curve = b.curve then .ok key else .error (.wrongKey key.curve b.curve)

/-- The public key of a handle. -/
def publicKey (b : Backend) (key : KeyHandle) : Traced Bytes := do
  let key ← b.checkHandle (some key)
  let secret ← key.material
  b.run .publicKey (.invalidKey b.curve) (b.primitives.publicKey secret)

/-- Opens a handle of an imported secret. The handle is released if the secret is no key
of the curve. -/
def keyFromSecret (b : Backend) (secret : Bytes) : Traced KeyHandle :=
  let key := KeyHandle.make b.curve "" secret
  let check := b.publicKey key
  match check.result with
  | .ok _ => ⟨.ok key, .opened key :: check.events⟩
  | .error f =>
    if f.code? = some .signingFailure then
      ⟨.error (.invalidPrivateKey b.curve f),
        .opened key :: check.events ++ Traced.releaseEvents key⟩
    else ⟨.error f, .opened key :: check.events⟩

/-- The signature of a message that was taken out of a payload. -/
def signMessage (b : Backend) (message : Bytes) (key : KeyHandle) : Traced Signature := do
  let secret ← key.material
  let value ← b.run (.sign message) (.unsigned b.curve) (b.primitives.sign message secret)
  .debug .backend (s!"Signed {message.length}-byte message with " ++ b.curve.name)
  pure ⟨b.curve, value⟩

/-- Signs a payload. The payload is consumed as soon as the handle is accepted. -/
def sign (b : Backend) (payload : Payload) (key : Option KeyHandle) :
    Traced Signature × Payload :=
  match b.checkHandle key with
  | .error f => (.fail f, payload)
  | .ok key =>
    match payload.consume with
    | (.error f, payload) => (.fail f, payload)
    | (.ok message, payload) => (b.signMessage message key, payload)

/-- Whether signature bytes are valid. A primitive that fails says no. -/
def verifyBytes (b : Backend) (message signature publicKey : Bytes) : Bool :=
  match b.primitives.verify message signature publicKey with
  | .ok valid => valid
  | .error _ => false

/-- Whether a signature is valid, which one of another curve never is. -/
def verify (b : Backend) (message : Bytes) (signature : Signature) (publicKey : Bytes) : Bool :=
  signature.curve = b.curve && b.verifyBytes message signature.value publicKey

end Backend

/-- The backends over some schemes. -/
def Schemes.backend (s : Schemes) (c : Curve) : Backend :=
  ⟨c, s.primitives c⟩

end Signatory
