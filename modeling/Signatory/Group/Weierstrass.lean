import Signatory.Bytes
import Signatory.Group.Residue

/-!
# Short Weierstrass curves

Curves `y² = x³ + a·x + b` over a prime field. Sums of multiples of points are computed
in Jacobian coordinates, one inversion at the end. The three curves of the library are
values of `Weierstrass`: `secp256k1`, `p256` and `stark`.
-/

namespace Signatory

/-- A point of a curve: the neutral element, or its two coordinates. -/
inductive Point where
  | zero
  | affine (x y : Nat)
  deriving DecidableEq, Inhabited

/-- A curve over a prime field with a generator of prime order. -/
structure Weierstrass where
  prime : Nat
  a : Nat
  b : Nat
  order : Nat
  gx : Nat
  gy : Nat

namespace Weierstrass

/-- Jacobian coordinates: `(x / z², y / z³)`, or the neutral element for `z = 0`. -/
structure Jacobian where
  x : Nat
  y : Nat
  z : Nat

variable (c : Weierstrass)

def generator : Point := .affine c.gx c.gy

def double (q : Jacobian) : Jacobian :=
  let p := c.prime
  let yy := q.y * q.y % p
  let zz := q.z * q.z % p
  let s := 4 * q.x * yy % p
  let m := (3 * q.x * q.x + c.a * (zz * zz % p)) % p
  let x := Residue.sub p (m * m % p) (2 * s % p)
  ⟨x, Residue.sub p (m * Residue.sub p s x % p) (8 * yy * yy % p), 2 * q.y * q.z % p⟩

/-- The sum of a point in Jacobian coordinates and one in affine coordinates. -/
def addAffine (q : Jacobian) (x y : Nat) : Jacobian :=
  let p := c.prime
  if q.z = 0 then ⟨x, y, 1⟩
  else
    let zz := q.z * q.z % p
    let h := Residue.sub p (x * zz % p) q.x
    let r := Residue.sub p (y * (zz * q.z % p) % p) q.y
    if h = 0 then
      if r = 0 then c.double q else ⟨1, 1, 0⟩
    else
      let hh := h * h % p
      let hhh := h * hh % p
      let v := q.x * hh % p
      let x3 := Residue.sub p (Residue.sub p (r * r % p) hhh) (2 * v % p)
      ⟨x3, Residue.sub p (r * Residue.sub p v x3 % p) (q.y * hhh % p), h * q.z % p⟩

def add (q : Jacobian) : Point → Jacobian
  | .zero => q
  | .affine x y => c.addAffine q x y

def toAffine (q : Jacobian) : Point :=
  if q.z = 0 then .zero
  else
    let i := Residue.inv c.prime q.z
    let ii := i * i % c.prime
    .affine (q.x * ii % c.prime) (q.y * (ii * i % c.prime) % c.prime)

/-- One pass over the bits of all factors, from position `bits - 1` down. -/
def combineBits (terms : List (Nat × Point)) : (bits : Nat) → Jacobian → Jacobian
  | 0, acc => acc
  | i + 1, acc =>
    combineBits terms i
      (terms.foldl (fun acc t => if t.1.testBit i then c.add acc t.2 else acc) (c.double acc))

/-- The sum of the given multiples of the given points. -/
def combine (terms : List (Nat × Point)) : Point :=
  let bits := terms.foldl (fun n t => max n (t.1.log2 + 1)) 0
  c.toAffine (c.combineBits terms bits ⟨1, 1, 0⟩)

/-- A multiple of a point. -/
def mul (k : Nat) (q : Point) : Point :=
  c.combine [(k, q)]

/-- The right-hand side of the curve's equation. -/
def rhs (x : Nat) : Nat :=
  (x * x % c.prime * x + c.a * x + c.b) % c.prime

def contains (x y : Nat) : Bool :=
  x < c.prime && y < c.prime && y * y % c.prime = c.rhs x

/-- The point with a given first coordinate and a second coordinate of a given parity. -/
def lift? (x : Nat) (odd : Bool) : Option Point :=
  if c.prime ≤ x then none
  else
    (Residue.sqrt? c.prime (c.rhs x)).map fun y =>
      .affine x (if (y % 2 = 1) = odd then y else Residue.neg c.prime y)

/-! ## Encodings of points in 33 or 65 bytes -/

/-- The parity of the second coordinate as 02 or 03, then the first coordinate. -/
def compress : Point → Bytes
  | .zero => [0]
  | .affine x y => (if y % 2 = 1 then 3 else 2) :: Bytes.beBytes 32 x

def decompress? : Bytes → Option Point
  | [] => none
  | tag :: rest =>
    if rest.length = 32 ∧ (tag = 2 ∨ tag = 3) then c.lift? (Bytes.beNat rest) (tag = 3)
    else none

/-- A compressed point, or 04 and both coordinates. -/
def decode? : Bytes → Option Point
  | [] => none
  | tag :: rest =>
    if tag = 4 ∧ rest.length = 64 then
      let x := Bytes.beNat (rest.take 32)
      let y := Bytes.beNat (rest.drop 32)
      if c.contains x y then some (.affine x y) else none
    else c.decompress? (tag :: rest)

/-! ## The curves -/

def secp256k1 : Weierstrass where
  prime := (1 <<< 256) - (1 <<< 32) - 977
  a := 0
  b := 7
  order := 0xFFFFFFFFFFFFFFFFFFFFFFFFFFFFFFFEBAAEDCE6AF48A03BBFD25E8CD0364141
  gx := 0x79BE667EF9DCBBAC55A06295CE870B07029BFCDB2DCE28D959F2815B16F81798
  gy := 0x483ADA7726A3C4655DA4FBFC0E1108A8FD17B448A68554199C47D08FFB10D4B8

def p256 : Weierstrass where
  prime := (1 <<< 256) - (1 <<< 224) + (1 <<< 192) + (1 <<< 96) - 1
  a := (1 <<< 256) - (1 <<< 224) + (1 <<< 192) + (1 <<< 96) - 4
  b := 0x5AC635D8AA3A93E7B3EBBD55769886BC651D06B0CC53B0F63BCE3C3E27D2604B
  order := 0xFFFFFFFF00000000FFFFFFFFFFFFFFFFBCE6FAADA7179E84F3B9CAC2FC632551
  gx := 0x6B17D1F2E12C4247F8BCE6E563A440F277037D812DEB33A0F4A13945D898C296
  gy := 0x4FE342E2FE1A7F9B8EE7EB4A7C0F9E162BCE33576B315ECECBB6406837BF51F5

/-- The curve over the field of Starknet's field elements. -/
def stark : Weierstrass where
  prime := (1 <<< 251) + (17 <<< 192) + 1
  a := 1
  b := 3141592653589793238462643383279502884197169399375105820974944592307816406665
  order := 0x800000000000010FFFFFFFFFFFFFFFFB781126DCAE7B2321E66A241ADC64D2F
  gx := 874739451078007766457464989774322083649278607533249481151382481072868806602
  gy := 152666792071518830868575557812948353041420400780739481342941381225525861407

end Weierstrass

end Signatory
