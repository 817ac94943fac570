import Signatory.Group.Ecdsa
import Signatory.Group.Edwards
import Signatory.Keys.Hierarchy

/-!
# Signature schemes

What a backend needs to know of the mathematics of its curve, as records of functions.
`none` stands for a refusal. `Schemes.standard` is the implementation of this library;
the laws of backends hold for any other one too.
-/

namespace Signatory

/-- Ed25519: secrets and signatures are byte strings. -/
structure EdwardsScheme where
  publicKey : (secret : Bytes) → Option Bytes
  sign : (message secret : Bytes) → Option Bytes
  verify : (message signature publicKey : Bytes) → Bool

/-- ECDSA: signatures are pairs of numbers for a digest. An implementation takes secrets as bytes or
as numbers. -/
structure EcdsaScheme (Secret : Type) where
  publicKey : (secret : Secret) → Option Bytes
  sign : (digest : Bytes) → (secret : Secret) → Option (Nat × Nat)
  verify : (digest : Bytes) → (r s : Nat) → (publicKey : Bytes) → Bool

/-- Signatures of field elements on the STARK curve: keys are numbers too. -/
structure StarkScheme where
  publicKey : (secret : Nat) → Nat
  sign : (message secret : Nat) → Option (Nat × Nat)
  verify : (message r s key : Nat) → Bool

/-- The schemes of all curves, and hierarchical derivation. -/
structure Schemes where
  derive : Hierarchy.Tree → (seed : Bytes) → (path : String) → Option Bytes
  ed25519 : EdwardsScheme
  secp256k1 : EcdsaScheme Bytes
  p256 : EcdsaScheme Nat
  stark : StarkScheme

namespace Schemes

/-- Ed25519 with secrets of 32 bytes. -/
def standardEdwards : EdwardsScheme where
  publicKey secret := if secret.length = 32 then some (Ed25519.publicKey secret) else none
  sign message secret := if secret.length = 32 then some (Ed25519.sign secret message) else none
  verify message signature key := Ed25519.verify message signature key

/-- A secret scalar, which must be in range. -/
def scalar? (c : Weierstrass) (secret : Nat) : Option Nat :=
  if 0 < secret ∧ secret < c.order then some secret else none

/-- ECDSA on a curve; `scalar?` reads secrets and `point?` public keys. -/
def ecdsa {Secret : Type} (c : Weierstrass) (scalar? : Secret → Option Nat)
    (point? : Bytes → Option Point) : EcdsaScheme Secret where
  publicKey secret := (scalar? secret).map fun n => Weierstrass.compress (c.mul n c.generator)
  sign digest secret := (scalar? secret).bind fun n => Ecdsa.sign c n digest
  verify digest r s key :=
    match point? key with
    | some q => Ecdsa.verify c digest r s q
    | none => false

/-- ECDSA on secp256k1, with secrets of 32 bytes and compressed public keys. -/
def standardSecp256k1 : EcdsaScheme Bytes :=
  ecdsa .secp256k1
    (fun secret => if secret.length = 32 then scalar? .secp256k1 (Bytes.beNat secret) else none)
    Weierstrass.secp256k1.decompress?

/-- ECDSA on P-256, with numbers for secrets. -/
def standardP256 : EcdsaScheme Nat :=
  ecdsa .p256 (scalar? .p256) Weierstrass.p256.decode?

def standard : Schemes where
  derive tree seed path := tree.derive? seed path
  ed25519 := standardEdwards
  secp256k1 := standardSecp256k1
  p256 := standardP256
  stark := ⟨Ecdsa.Stark.publicKey, Ecdsa.Stark.sign, Ecdsa.Stark.verify⟩

end Schemes

end Signatory
