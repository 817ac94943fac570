import Signatory.Keys.Grind
import Signatory.Scheme

/-!
# Curve primitives

The four operations of a curve on raw bytes: deriving a secret, its public key, signing
and verifying. They check what the schemes leave open: ranges of secrets, the length of
signatures, and that the second half of an ECDSA signature is low.
-/

namespace Signatory

/-- The operations of one curve on raw bytes. Each may fail for any reason. -/
structure Primitives where
  deriveSecret : (seed : Bytes) → (path : String) → Except Failure Bytes
  publicKey : (secret : Bytes) → Except Failure Bytes
  sign : (message secret : Bytes) → Except Failure Bytes
  verify : (message signature publicKey : Bytes) → Except Failure Bool

namespace Primitives

/-- An answer of a scheme, or the failure that there is none. -/
def answer {α : Type} : Option α → Except Failure α
  | some a => .ok a
  | none => .error .noAnswer

/-- The two numbers of a signature of 64 bytes. -/
def splitSignature (signature : Bytes) : Except Failure (Nat × Nat) :=
  if signature.length = 64 then
    .ok (Bytes.beNat (signature.take 32), Bytes.beNat (signature.drop 32))
  else .error .noAnswer

/-- Two numbers as a signature of 64 bytes. -/
def joinSignature (r s : Nat) : Bytes :=
  Bytes.beBytes 32 r ++ Bytes.beBytes 32 s

/-! ## Ed25519 -/

def ed25519 (s : Schemes) : Primitives where
  deriveSecret seed path := answer (s.derive .ed25519 seed path)
  publicKey secret := answer (s.ed25519.publicKey secret)
  sign message secret := answer (s.ed25519.sign message secret)
  verify message signature key := .ok (s.ed25519.verify message signature key)

/-! ## secp256k1 -/

/-- A secret scalar must be in range. -/
def checkSecp256k1 (secret : Bytes) : Except Failure Unit :=
  let n := Bytes.beNat secret
  if 0 < n ∧ n < Weierstrass.secp256k1.order then .ok ()
  else .error (.secretOutOfRange .secp256k1)

def secp256k1 (s : Schemes) : Primitives where
  deriveSecret seed path := answer (s.derive .secp256k1 seed path)
  publicKey secret := do
    checkSecp256k1 secret
    answer (s.secp256k1.publicKey secret)
  sign message secret := do
    checkSecp256k1 secret
    let (r, t) ← answer (s.secp256k1.sign (Sha256.digest message) secret)
    pure (joinSignature r t)
  verify message signature key := do
    let (r, t) ← splitSignature signature
    let order := Weierstrass.secp256k1.order
    if 0 < r ∧ r < order ∧ 0 < t ∧ t ≤ order / 2 then
      pure (s.secp256k1.verify (Sha256.digest message) r t key)
    else pure false

/-! ## P-256 -/

/-- Secrets are handed on as the numbers that they stand for. -/
def p256 (s : Schemes) : Primitives where
  deriveSecret seed path := answer (s.derive .p256 seed path)
  publicKey secret := answer (s.p256.publicKey (Bytes.beNat secret))
  sign message secret := do
    let (r, t) ← answer (s.p256.sign (Sha256.digest message) (Bytes.beNat secret))
    pure (joinSignature r (Ecdsa.lowHalf Weierstrass.p256.order t))
  verify message signature key := do
    let (r, t) ← splitSignature signature
    if Weierstrass.p256.order / 2 < t then pure false
    else pure (s.p256.verify (Sha256.digest message) r t key)

/-! ## The STARK curve -/

/-- A message of 32 bytes as a number below `2 ^ 251`. -/
def starkMessage (message : Bytes) : Except Failure Nat :=
  if message.length ≠ 32 then .error (.messageLength message.length)
  else
    let n := Bytes.beNat message
    if n < Ecdsa.Stark.bound then .ok n else .error .messageOutOfRange

/-- The scalar of a secret, which must be in range. -/
def starkScalar (secret : Bytes) : Except Failure Nat :=
  let n := Bytes.beNat secret
  if 0 < n ∧ n < Weierstrass.stark.order then .ok n else .error (.secretOutOfRange .stark)

/-- The secret that key material is ground into. -/
def grindSecret (material : Bytes) (path : String) : Except Failure Bytes := do
  let k ← Grind.key Grind.sha256 material Weierstrass.stark.order
  if k = 0 then throw (.degenerateKey path)
  pure (Bytes.beBytes 32 k.toNat)

def stark (s : Schemes) : Primitives where
  deriveSecret seed path := do
    let material ← answer (s.derive .secp256k1 seed path)
    grindSecret material path
  publicKey secret := do
    let n ← starkScalar secret
    pure (Bytes.beBytes 32 (s.stark.publicKey n))
  sign message secret := do
    let z ← starkMessage message
    let n ← starkScalar secret
    let (r, t) ← answer (s.stark.sign z n)
    pure (joinSignature r t)
  verify message signature key := do
    let (r, t) ← splitSignature signature
    let z ← starkMessage message
    pure (s.stark.verify z r t (Bytes.beNat key))

end Primitives

/-- The primitives of each curve over some schemes. -/
def Schemes.primitives (s : Schemes) : Curve → Primitives
  | .ed25519 => .ed25519 s
  | .secp256k1 => .secp256k1 s
  | .p256 => .p256 s
  | .stark => .stark s

end Signatory
