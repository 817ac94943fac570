import Signatory.Group.Nonce
import Signatory.Group.Weierstrass

/-!
# ECDSA

Signatures over a Weierstrass curve as pairs of numbers. `sign` and `verify` follow the
standard; `Stark.sign` and `Stark.verify` are the variant of the STARK curve, where the
message is a field element, the nonce is bound to a fixed extra byte, and a verifier
takes only the first coordinate of the public key.
-/

namespace Signatory.Ecdsa

/-- The signature of a reduced digest with a given nonce, unless it degenerates. -/
def signWith (c : Weierstrass) (z secret nonce : Nat) : Option (Nat × Nat) :=
  match c.mul nonce c.generator with
  | .zero => none
  | .affine x _ =>
    let r := x % c.order
    let s := Residue.inv c.order nonce * ((z + r * secret) % c.order) % c.order
    if r = 0 ∨ s = 0 then none else some (r, s)

/-- The second half of a signature, or its negative if that is smaller. -/
def lowHalf (order s : Nat) : Nat :=
  if s > order / 2 then order - s else s

/-- The deterministic signature of a 32-byte digest, its second half made low. -/
def sign (c : Weierstrass) (secret : Nat) (digest : Bytes) : Option (Nat × Nat) := do
  let nonce ← Nonce.generate c.order secret digest []
  let (r, s) ← signWith c (Bytes.beNat digest % c.order) secret nonce
  some (r, lowHalf c.order s)

/-- Whether a pair of numbers signs a 32-byte digest for a public key. -/
def verify (c : Weierstrass) (digest : Bytes) (r s : Nat) (key : Point) : Bool :=
  if 0 < r ∧ r < c.order ∧ 0 < s ∧ s < c.order then
    let w := Residue.inv c.order s
    let u := Bytes.beNat digest % c.order * w % c.order
    match c.combine [(u, c.generator), (r * w % c.order, key)] with
    | .zero => false
    | .affine x _ => x % c.order = r
  else false

namespace Stark

/-- The bound on the numbers of a signature and on messages. -/
def bound : Nat := 1 <<< 251

/-- How many bits a number has; none for zero. -/
def bitLength (n : Nat) : Nat :=
  if n = 0 then 0 else n.log2 + 1

/-- The digest that the nonce is made from: the message in as few bytes as it needs,
four bits further left when that keeps its leading bits in place. -/
def nonceDigest (z : Nat) : Bytes :=
  let bits := bitLength z
  Bytes.minimal (if 1 ≤ bits % 8 ∧ bits % 8 ≤ 4 ∧ 248 ≤ bits then z * 16 else z)

/-- The signature of a field element. Zero has none. -/
def sign (z secret : Nat) : Option (Nat × Nat) := do
  let c := Weierstrass.stark
  if z = 0 then none
  else
    let nonce ← Nonce.generate c.order secret (nonceDigest z) [32]
    let (r, s) ← signWith c z secret nonce
    let w := Residue.inv c.order s
    if r < bound ∧ w < bound then some (r, s) else none

/-- Whether a pair of numbers signs a field element for the first coordinate of a key. -/
def verify (z r s key : Nat) : Bool :=
  let c := Weierstrass.stark
  let w := Residue.inv c.order (s % c.order)
  if z = 0 ∨ r = 0 ∨ bound ≤ r ∨ w = 0 ∨ bound ≤ w then false
  else
    match c.lift? key false with
    | some (.affine x y) =>
      [y, Residue.neg c.prime y].any fun y =>
        match c.combine [(z * w % c.order, c.generator), (r * w % c.order, .affine x y)] with
        | .zero => false
        | .affine x _ => x = r
    | _ => false

/-- The public key of a secret scalar: the first coordinate of its multiple. -/
def publicKey (secret : Nat) : Nat :=
  match Weierstrass.stark.mul secret Weierstrass.stark.generator with
  | .zero => 0
  | .affine x _ => x

end Stark

end Signatory.Ecdsa
