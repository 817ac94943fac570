import Signatory.Digest.Sha512
import Signatory.Group.Residue

/-!
# Ed25519

Signatures over the twisted Edwards curve `-x² + y² = 1 + d·x²·y²` (RFC 8032). A
signature is accepted if its second half is below the group order and the point computed
from it has exactly the bytes of its first half.
-/

namespace Signatory.Ed25519

def prime : Nat := (1 <<< 255) - 19

/-- The order of the group that the base point generates. -/
def order : Nat := (1 <<< 252) + 27742317777372353535851937790883648493

def d : Nat := 37095705934669439343138083508754565189542113879843219016388785533085940283555

/-- Extended coordinates: `x = X / Z`, `y = Y / Z`, `x·y = T / Z`. -/
structure Extended where
  x : Nat
  y : Nat
  z : Nat
  t : Nat

def neutral : Extended := ⟨0, 1, 1, 0⟩

def ofAffine (x y : Nat) : Extended :=
  ⟨x, y, 1, x * y % prime⟩

def base : Extended :=
  ofAffine 15112221349535400772501151409588531511454012693041857206046113283949847762202
    46316835694926478169428394003475163141307993866256225615783033603165251855960

/-- The complete addition law. -/
def add (q r : Extended) : Extended :=
  let p := prime
  let a := Residue.sub p q.y q.x * Residue.sub p r.y r.x % p
  let b := (q.y + q.x) * (r.y + r.x) % p
  let c := 2 * d * (q.t * r.t % p) % p
  let dd := 2 * q.z * r.z % p
  let e := Residue.sub p b a
  let f := Residue.sub p dd c
  let g := (dd + c) % p
  let h := (b + a) % p
  ⟨e * f % p, g * h % p, f * g % p, e * h % p⟩

def negate (q : Extended) : Extended :=
  ⟨Residue.neg prime q.x, q.y, q.z, Residue.neg prime q.t⟩

def combineBits (terms : List (Nat × Extended)) : (bits : Nat) → Extended → Extended
  | 0, acc => acc
  | i + 1, acc =>
    combineBits terms i
      (terms.foldl (fun acc t => if t.1.testBit i then add acc t.2 else acc) (add acc acc))

/-- The sum of the given multiples of the given points. -/
def combine (terms : List (Nat × Extended)) : Extended :=
  combineBits terms (terms.foldl (fun n t => max n (t.1.log2 + 1)) 0) neutral

/-! ## Encoding -/

/-- The second coordinate in 32 little-endian bytes, the parity of the first in the top bit. -/
def encode (q : Extended) : Bytes :=
  let i := Residue.inv prime q.z
  Bytes.leBytes 32 (q.y * i % prime + (q.x * i % prime % 2) <<< 255)

/-- The point that 32 bytes stand for. The second coordinate need not be reduced. -/
def decode? (bs : Bytes) : Option Extended :=
  if bs.length = 32 then
    let n := Bytes.leNat bs
    let y := n % (1 <<< 255) % prime
    let yy := y * y % prime
    let xx := Residue.sub prime yy 1 * Residue.inv prime ((d * yy + 1) % prime) % prime
    (Residue.sqrt? prime xx).map fun x =>
      ofAffine (if x % 2 = n >>> 255 then x else Residue.neg prime x) y
  else none

/-! ## Keys and signatures -/

/-- The secret scalar and the nonce key of a 32-byte secret. -/
def expand (secret : Bytes) : Nat × Bytes :=
  let h := Sha512.digest secret
  (Bytes.leNat (h.take 32) % (1 <<< 254) / 8 * 8 + (1 <<< 254), h.drop 32)

def publicKey (secret : Bytes) : Bytes :=
  encode (combine [((expand secret).1, base)])

/-- A digest read as a scalar. -/
def scalar (bs : Bytes) : Nat :=
  Bytes.leNat (Sha512.digest bs) % order

def sign (secret message : Bytes) : Bytes :=
  let (a, nonceKey) := expand secret
  let key := publicKey secret
  let r := scalar (nonceKey ++ message)
  let first := encode (combine [(r, base)])
  first ++ Bytes.leBytes 32 ((r + scalar (first ++ key ++ message) * a) % order)

def verify (message signature key : Bytes) : Bool :=
  match decode? key with
  | none => false
  | some a =>
    let s := Bytes.leNat (signature.drop 32)
    signature.length = 64 && s < order &&
      encode (combine [(s, base), (scalar (signature.take 32 ++ key ++ message), negate a)]) =
        signature.take 32

end Signatory.Ed25519
