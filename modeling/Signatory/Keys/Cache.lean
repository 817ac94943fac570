import Signatory.ChainTable

/-!
# The cache of public keys

A cache holds a limited number of public keys. When it is full, the key that was used
least recently makes room. Seeds are told apart by a fingerprint.
-/

namespace Signatory

/-- What a public key is cached under. -/
structure CacheKey where
  fingerprint : Bytes
  chain : String
  curve : Curve
  path : String
  deriving DecidableEq, Repr

/-- Cached public keys, the most recently used last. -/
structure Cache where
  capacity : Int
  entries : List (CacheKey × Bytes)
  deriving DecidableEq, Repr

namespace Cache

def empty (capacity : Int) : Cache := ⟨capacity, []⟩

/-- The entries without those of a key. -/
def without (c : Cache) (key : CacheKey) : List (CacheKey × Bytes) :=
  c.entries.filter fun e => e.1 != key

/-- A cached public key, and the cache after its use. -/
def use? (c : Cache) (key : CacheKey) : Option (Bytes × Cache) :=
  (c.entries.lookup key).map fun publicKey =>
    (publicKey, { c with entries := c.without key ++ [(key, publicKey)] })

/-- The cache with a public key added. A cache without room for one entry refuses. -/
def store (c : Cache) (key : CacheKey) (publicKey : Bytes) : Except Failure Cache :=
  if c.capacity < 1 then .error .cacheTooSmall
  else
    let kept := c.without key
    let room := c.capacity.toNat - 1
    .ok { c with entries := kept.drop (kept.length - room) ++ [(key, publicKey)] }

def clear (c : Cache) : Cache := empty c.capacity

/-- The keys of the entries. -/
def keys (c : Cache) : List CacheKey :=
  c.entries.map (·.1)

end Cache

end Signatory
