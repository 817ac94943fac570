import Signatory.Bytes

/-!
# Keccak-256

The sponge over the Keccak-f[1600] permutation with a rate of 136 bytes. Its padding byte
is 01, where SHA-3 has 06.
-/

namespace Signatory.Keccak

/-- The 25 lanes of the state, lane `(x, y)` at `x + 5 * y`. -/
abbrev Lanes := Array UInt64

def roundConstants : List UInt64 :=
  [0x0000000000000001, 0x0000000000008082, 0x800000000000808a, 0x8000000080008000,
   0x000000000000808b, 0x0000000080000001, 0x8000000080008081, 0x8000000000008009,
   0x000000000000008a, 0x0000000000000088, 0x0000000080008009, 0x000000008000000a,
   0x000000008000808b, 0x800000000000008b, 0x8000000000008089, 0x8000000000008003,
   0x8000000000008002, 0x8000000000000080, 0x000000000000800a, 0x800000008000000a,
   0x8000000080008081, 0x8000000000008080, 0x0000000080000001, 0x8000000080008008]

/-- How far each lane is rotated. -/
def offsets : Array UInt64 :=
  #[0, 1, 62, 28, 27, 36, 44, 6, 55, 20, 3, 10, 43, 25, 39, 41, 45, 15, 21, 8, 18, 2, 61, 56, 14]

def rotateLeft (x n : UInt64) : UInt64 :=
  if n = 0 then x else (x <<< n) ||| (x >>> (64 - n))

def lane (a : Lanes) (x y : Nat) : UInt64 :=
  a.getD (x % 5 + 5 * (y % 5)) 0

/-- The lanes given by a function of the two coordinates. -/
def build (f : Nat → Nat → UInt64) : Lanes :=
  (Array.range 25).map fun i => f (i % 5) (i / 5)

/-- The exclusive-or of a column. -/
def column (a : Lanes) (x : Nat) : UInt64 :=
  lane a x 0 ^^^ lane a x 1 ^^^ lane a x 2 ^^^ lane a x 3 ^^^ lane a x 4

/-- One round: θ, then ρ and π together, then χ, then ι. -/
def round (a : Lanes) (constant : UInt64) : Lanes :=
  let columns := (Array.range 5).map (column a)
  let a := build fun x y =>
    lane a x y ^^^ columns.getD ((x + 4) % 5) 0 ^^^ rotateLeft (columns.getD ((x + 1) % 5) 0) 1
  let a := build fun x y =>
    let sx := (x + 3 * y) % 5
    rotateLeft (lane a sx x) (offsets.getD (sx + 5 * x) 0)
  let a := build fun x y => lane a x y ^^^ ((~~~ lane a (x + 1) y) &&& lane a (x + 2) y)
  a.setIfInBounds 0 (lane a 0 0 ^^^ constant)

def permute (a : Lanes) : Lanes :=
  roundConstants.foldl round a

def rate : Nat := 136

/-- The message, a one bit, zeros, and a closing one bit, filling whole blocks. -/
def pad (m : Bytes) : Bytes :=
  let fill := rate - m.length % rate
  if fill = 1 then m ++ [0x81] else m ++ 0x01 :: List.replicate (fill - 2) 0 ++ [0x80]

def absorb : (blocks : Nat) → Lanes → Bytes → Lanes
  | 0, a, _ => a
  | n + 1, a, bs =>
    let block := bs.take rate
    let mixed := a.mapIdx fun i x =>
      x ^^^ UInt64.ofNat (Bytes.leNat ((block.drop (8 * i)).take 8))
    absorb n (permute mixed) (bs.drop rate)

/-- The 32-byte Keccak digest of a message. -/
def digest (m : Bytes) : Bytes :=
  let padded := pad m
  let a := absorb (padded.length / rate) (Array.replicate 25 0) padded
  (a.toList.take 4).flatMap fun x => Bytes.leBytes 8 x.toNat

end Signatory.Keccak
