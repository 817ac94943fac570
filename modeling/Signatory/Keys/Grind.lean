import Signatory.Digest.Sha256
import Signatory.Failure

/-!
# Grinding keys

A digest reduced into a range of residues without bias (EIP-2645): a seed is digested
with the indexes 0, 1, 2 and so on, until the digest falls below the largest multiple of
the limit.
-/

namespace Signatory.Grind

/-- The shortest big-endian form of an index, one byte at least. -/
def indexBytes (i : Nat) : Bytes :=
  if i = 0 then [0] else Bytes.minimal i

/-- The digest of a seed and an index, as a number. -/
def digestAt (hash : Bytes → Nat) (seed : Bytes) (i : Nat) : Nat :=
  hash (seed ++ indexBytes i)

/-- Digests from this number on are refused. It is a multiple of the limit. -/
def bound (limit : Int) : Int :=
  let digests : Int := Bytes.capacity 32
  digests - Int.fmod digests limit

/-- An index is the first one whose digest is accepted. -/
structure IsFirst (hash : Bytes → Nat) (seed : Bytes) (limit : Int) (i : Nat) : Prop where
  accepted : digestAt hash seed i < bound limit
  refused : ∀ j < i, bound limit ≤ digestAt hash seed j

/-- An index before which every digest is refused. -/
structure Candidate (hash : Bytes → Nat) (seed : Bytes) (limit : Int) where
  index : Nat
  refused : ∀ j < index, bound limit ≤ digestAt hash seed j

section
variable {hash : Bytes → Nat} {seed : Bytes} {limit : Int}

/-- The first candidate. -/
def Candidate.zero : Candidate hash seed limit :=
  ⟨0, fun _ h => absurd h (Nat.not_lt_zero _)⟩

/-- The candidate after a refused one. -/
def Candidate.next (c : Candidate hash seed limit)
    (h : bound limit ≤ digestAt hash seed c.index) : Candidate hash seed limit where
  index := c.index + 1
  refused j hj := by
    rcases Nat.eq_or_lt_of_le (Nat.le_of_lt_succ hj) with rfl | hlt
    · exact h
    · exact c.refused j hlt

/-- The first accepted index, sought from a candidate on. The search goes on for as long as digests
are refused. If that never ends there is no first index, so that `none` is the only value. -/
def firstFrom : Candidate hash seed limit → Option {i // IsFirst hash seed limit i} :=
  -- No candidate is behind an accepted index, so that the relation is well-founded if there is one.
  WellFounded.extrinsicFix (fun later c => later.index = c.index + 1) fun c search =>
    if h : digestAt hash seed c.index < bound limit then some ⟨c.index, h, c.refused⟩
    else search (c.next (Int.not_lt.1 h)) rfl

end

/-- The residue for a seed. -/
def key (hash : Bytes → Nat) (seed : Bytes) (limit : Int) : Except Failure Int :=
  if limit = 0 then .error .zeroLimit
  else
    match firstFrom (.zero : Candidate hash seed limit) with
    | some first => .ok (Int.fmod (digestAt hash seed first) limit)
    | none => .error .noAnswer

/-- The SHA-256 digest as a number. -/
def sha256 (bs : Bytes) : Nat :=
  Bytes.beNat (Sha256.digest bs)

end Signatory.Grind
