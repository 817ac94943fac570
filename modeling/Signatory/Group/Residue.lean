/-!
# Residues modulo a prime

Powers, inverses and square roots modulo a prime, on numbers below the modulus.
Square roots are found for every odd prime: by one power if the prime is 3 modulo 4,
else in the quadratic extension by a square root of a non-residue.
-/

namespace Signatory.Residue

def sub (p a b : Nat) : Nat :=
  (a + p - b) % p

def neg (p a : Nat) : Nat :=
  (p - a) % p

/-- Square and multiply from the highest bit of the exponent down. -/
def powBits (p base exponent : Nat) : (bits : Nat) → Nat → Nat
  | 0, acc => acc
  | i + 1, acc =>
    let square := acc * acc % p
    powBits p base exponent i (if exponent.testBit i then square * base % p else square)

/-- The power of a residue. -/
def pow (p base exponent : Nat) : Nat :=
  if exponent = 0 then 1 % p else powBits p base exponent (exponent.log2 + 1) 1

/-- The inverse modulo a prime; zero for zero. -/
def inv (p a : Nat) : Nat :=
  pow p a (p - 2)

/-- Whether a residue is zero or a square. -/
def isSquare (p a : Nat) : Bool :=
  pow p a ((p - 1) / 2) ≠ p - 1

/-! ## Square roots -/

/-- A product of two elements `u + v·√w` of the quadratic extension. -/
def extMul (p w : Nat) (x y : Nat × Nat) : Nat × Nat :=
  ((x.1 * y.1 + x.2 * y.2 % p * w) % p, (x.1 * y.2 + x.2 * y.1) % p)

def extPowBits (p w : Nat) (base : Nat × Nat) (exponent : Nat) :
    (bits : Nat) → Nat × Nat → Nat × Nat
  | 0, acc => acc
  | i + 1, acc =>
    let square := extMul p w acc acc
    extPowBits p w base exponent i
      (if exponent.testBit i then extMul p w square base else square)

/-- The first of `count` numbers from `t` on for which `t² - a` is no square. -/
def findNonSquare (p a : Nat) : (count : Nat) → Nat → Nat
  | 0, t => t
  | n + 1, t => if isSquare p (sub p (t * t % p) a) then findNonSquare p a n (t + 1) else t

/-- A number whose square is the residue, if it has one. -/
def rootCandidate (p a : Nat) : Nat :=
  if a % p = 0 then 0
  else if p % 4 = 3 then pow p a ((p + 1) / 4)
  else
    let t := findNonSquare p a 256 1
    let e := (p + 1) / 2
    (extPowBits p (sub p (t * t % p) a) (t, 1) e (e.log2 + 1) (1, 0)).1

/-- A square root of a residue, if there is one. -/
def sqrt? (p a : Nat) : Option Nat :=
  let r := rootCandidate p a
  if r * r % p = a % p then some r else none

theorem sqrt?_sq {p a r : Nat} (h : sqrt? p a = some r) : r * r % p = a % p := by
  dsimp only [sqrt?] at h
  split at h
  · next hr => cases h; exact hr
  · cases h

end Signatory.Residue
