import Signatory.Bytes

/-!
# SHA-256

The digest of a byte string by the Merkle–Damgård chain over 64-byte blocks of
32-bit words (FIPS 180-4). The round constants are the first 32 bits of the
fractional parts of the cube roots of the first 64 primes, and the initial state
those of the square roots of the first eight.
-/

namespace Signatory.Sha256

/-- The eight chaining words. -/
structure State where
  a : UInt32
  b : UInt32
  c : UInt32
  d : UInt32
  e : UInt32
  f : UInt32
  g : UInt32
  h : UInt32
  deriving Inhabited

def initial : State :=
  ⟨0x6a09e667, 0xbb67ae85, 0x3c6ef372, 0xa54ff53a,
   0x510e527f, 0x9b05688c, 0x1f83d9ab, 0x5be0cd19⟩

def roundConstants : Array UInt32 :=
  #[
    0x428a2f98, 0x71374491, 0xb5c0fbcf, 0xe9b5dba5, 0x3956c25b, 0x59f111f1,
    0x923f82a4, 0xab1c5ed5, 0xd807aa98, 0x12835b01, 0x243185be, 0x550c7dc3,
    0x72be5d74, 0x80deb1fe, 0x9bdc06a7, 0xc19bf174, 0xe49b69c1, 0xefbe4786,
    0x0fc19dc6, 0x240ca1cc, 0x2de92c6f, 0x4a7484aa, 0x5cb0a9dc, 0x76f988da,
    0x983e5152, 0xa831c66d, 0xb00327c8, 0xbf597fc7, 0xc6e00bf3, 0xd5a79147,
    0x06ca6351, 0x14292967, 0x27b70a85, 0x2e1b2138, 0x4d2c6dfc, 0x53380d13,
    0x650a7354, 0x766a0abb, 0x81c2c92e, 0x92722c85, 0xa2bfe8a1, 0xa81a664b,
    0xc24b8b70, 0xc76c51a3, 0xd192e819, 0xd6990624, 0xf40e3585, 0x106aa070,
    0x19a4c116, 0x1e376c08, 0x2748774c, 0x34b0bcb5, 0x391c0cb3, 0x4ed8aa4a,
    0x5b9cca4f, 0x682e6ff3, 0x748f82ee, 0x78a5636f, 0x84c87814, 0x8cc70208,
    0x90befffa, 0xa4506ceb, 0xbef9a3f7, 0xc67178f2]

/-! ## Words -/

def rotate (x : UInt32) (n : UInt32) : UInt32 :=
  (x >>> n) ||| (x <<< (32 - n))

def bigSigma0 (x : UInt32) : UInt32 := rotate x 2 ^^^ rotate x 13 ^^^ rotate x 22
def bigSigma1 (x : UInt32) : UInt32 := rotate x 6 ^^^ rotate x 11 ^^^ rotate x 25
def smallSigma0 (x : UInt32) : UInt32 := rotate x 7 ^^^ rotate x 18 ^^^ (x >>> 3)
def smallSigma1 (x : UInt32) : UInt32 := rotate x 17 ^^^ rotate x 19 ^^^ (x >>> 10)

/-- The `count` big-endian words at the front of a byte string. -/
def words : (count : Nat) → Bytes → List UInt32
  | 0, _ => []
  | n + 1, bs =>
    (bs.take 4).foldl (fun x b => (x <<< 8) ||| b.toUInt32) 0 :: words n (bs.drop 4)

/-- The sixteen words of a block and the words made from them, one for each round. -/
def schedule (block : Bytes) : Array UInt32 :=
  Nat.fold 48 (fun _ _ w =>
      let n := w.size
      w.push (smallSigma1 (w.getD (n - 2) 0) + w.getD (n - 7) 0 +
        smallSigma0 (w.getD (n - 15) 0) + w.getD (n - 16) 0))
    (words 16 block).toArray

/-! ## Compression -/

/-- One round, with the sum of its constant and its message word. -/
def State.round (s : State) (kw : UInt32) : State :=
  let t1 := s.h + bigSigma1 s.e + ((s.e &&& s.f) ^^^ ((~~~ s.e) &&& s.g)) + kw
  let t2 := bigSigma0 s.a + ((s.a &&& s.b) ^^^ (s.a &&& s.c) ^^^ (s.b &&& s.c))
  ⟨t1 + t2, s.a, s.b, s.c, s.d + t1, s.e, s.f, s.g⟩

def State.add (s t : State) : State :=
  ⟨s.a + t.a, s.b + t.b, s.c + t.c, s.d + t.d, s.e + t.e, s.f + t.f, s.g + t.g, s.h + t.h⟩

/-- One block folded into the state. -/
def compress (s : State) (block : Bytes) : State :=
  let w := schedule block
  s.add (Nat.fold 64 (fun i _ t => t.round (roundConstants.getD i 0 + w.getD i 0)) s)

/-- The message, a one bit, zeros, and the length in bits, filling whole blocks. -/
def pad (m : Bytes) : Bytes :=
  m ++ 0x80 :: List.replicate ((119 - m.length % 64) % 64) 0 ++
    Bytes.beBytes 8 (8 * m.length)

def absorb : (blocks : Nat) → State → Bytes → State
  | 0, s, _ => s
  | n + 1, s, bs => absorb n (compress s (bs.take 64)) (bs.drop 64)

def State.toBytes (s : State) : Bytes :=
  [s.a, s.b, s.c, s.d, s.e, s.f, s.g, s.h].flatMap fun x => Bytes.beBytes 4 x.toNat

/-- The digest of a message, 32 bytes long. -/
def digest (m : Bytes) : Bytes :=
  let padded := pad m
  (absorb (padded.length / 64) initial padded).toBytes

theorem length_digest (m : Bytes) : (digest m).length = 32 := by
  simp [digest, State.toBytes]

end Signatory.Sha256
