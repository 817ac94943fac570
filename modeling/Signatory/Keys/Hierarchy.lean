import Signatory.Digest.Hmac
import Signatory.Group.Weierstrass
import Signatory.Keys.Path

/-!
# Hierarchical derivation

Secret keys derived from a master seed along a path (BIP-32 and SLIP-10), on a
Weierstrass curve or for Ed25519, where only hardened steps exist.
-/

namespace Signatory.Hierarchy

/-- A kind of tree of keys: the key of the master digest, and the curve if steps add to a
scalar of it. -/
structure Tree where
  masterKey : String
  curve : Option Weierstrass

def Tree.ed25519 : Tree := ⟨"ed25519 seed", none⟩
def Tree.secp256k1 : Tree := ⟨"Bitcoin seed", some .secp256k1⟩
def Tree.p256 : Tree := ⟨"Nist256p1 seed", some .p256⟩

/-- A secret key with the chain code that its children depend on. -/
structure Node where
  secret : Bytes
  chainCode : Bytes

def Node.ofDigest (digest : Bytes) : Node :=
  ⟨digest.take 32, digest.drop 32⟩

/-- Whether 32 bytes are a secret key of the tree. -/
def Tree.accepts (t : Tree) (secret : Bytes) : Bool :=
  match t.curve with
  | none => true
  | some c => let n := Bytes.beNat secret; 0 < n && n < c.order

/-- The master node: the seed is digested again until the key is valid. -/
def Tree.master? (t : Tree) : (tries : Nat) → Bytes → Option Node
  | 0, _ => none
  | n + 1, seed =>
    let digest := Hash.sha512.hmac (Bytes.ascii t.masterKey) seed
    let node := Node.ofDigest digest
    if t.accepts node.secret then some node else t.master? n digest

/-- What a child is made from: the secret for a hardened step, else the public key. -/
def Tree.childSeed? (t : Tree) (node : Node) (step : Nat) : Option Bytes :=
  if Path.isHardened step then some (0 :: node.secret)
  else t.curve.map fun c =>
    Weierstrass.compress (c.mul (Bytes.beNat node.secret) c.generator)

/-- The node one step below. On a curve the front of the digest, reduced by the order, is
added to the secret; only a sum of zero is refused. -/
def Tree.child? (t : Tree) (node : Node) (step : Nat) : Option Node := do
  let seed ← t.childSeed? node step
  let child := Node.ofDigest (Hash.sha512.hmac node.chainCode (seed ++ Bytes.beBytes 4 step))
  match t.curve with
  | none => some child
  | some c =>
    let n := (Bytes.beNat child.secret + Bytes.beNat node.secret) % c.order
    if n = 0 then none else some { child with secret := Bytes.beBytes 32 n }

/-- The secret key at a path. The seed must have at least sixteen bytes. -/
def Tree.derive? (t : Tree) (seed : Bytes) (path : String) : Option Bytes := do
  if seed.length < 16 then none
  else
    let steps ← Path.parse? path
    let master ← t.master? 64 seed
    let node ← steps.foldlM t.child? master
    some node.secret

end Signatory.Hierarchy
