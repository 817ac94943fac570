import Signatory.Backend
import Signatory.Digest.Blake2b
import Signatory.Keys.Cache
import Signatory.Settings

/-!
# The key service

Opens key handles for the chains of a table and answers for public keys, which it keeps in
a cache. Secrets are never cached.
-/

namespace Signatory

/-- The backends of all curves, and the fingerprint that tells seeds apart. -/
structure KeyService where
  backend : Curve → Backend
  fingerprint : Bytes → Bytes

namespace KeyService

/-- The fingerprint of a seed in 16 bytes. -/
def seedFingerprint (seed : Bytes) : Bytes :=
  Blake2b.digestFor 16 (Bytes.ascii "chainsigner-pk") seed

def ofSchemes (s : Schemes) : KeyService := ⟨s.backend, seedFingerprint⟩

/-- The service of this library's own schemes. -/
def standard : KeyService := ofSchemes .standard

/-- The cache that settings ask for. -/
def cacheOf (s : Settings) : Option Cache :=
  if 0 < s.cacheLifetime then some (.empty s.cacheSize) else none

/-- The curve of a chain, and the given path or the default one. -/
def locate (t : ChainTable) (chain : Value) (path : Option String) (choice : CurveChoice) :
    Except Failure (Curve × String) := do
  let curve ← t.curveFor chain choice
  match path.filter fun p => !p.isEmpty with
  | some path => pure (curve, path)
  | none => pure (curve, ← t.defaultPath chain (.exactly curve))

/-- Opens a handle of an account's key. -/
def derive (s : KeyService) (t : ChainTable) (seed : Bytes) (chain : Value)
    (path : Option String) (choice : CurveChoice) : Traced KeyHandle := do
  .note .derivation
  let (curve, path) ← locate t chain path choice
  let tag ← Tag.ofValue chain
  .debug .derivation ("Deriving " ++ curve.name ++ " key for " ++ tag ++ " at " ++ path)
  (s.backend curve).deriveKey seed path

/-- The public key of a secret that is derived for this alone. -/
def freshPublicKey (s : KeyService) (seed : Bytes) (curve : Curve) (path : String) :
    Traced Bytes := do
  let backend := s.backend curve
  let key ← backend.deriveKey seed path
  Traced.withKey key backend.publicKey

/-- What the public key of an account is cached under. -/
def cacheKey (s : KeyService) (t : ChainTable) (seed : Bytes) (chain : Value)
    (path : Option String) (choice : CurveChoice) : Except Failure CacheKey := do
  let (curve, path) ← locate t chain path choice
  if seed.isEmpty then throw .emptySeed
  let tag ← Tag.ofValue chain
  pure ⟨s.fingerprint seed, tag, curve, path⟩

/-- The public key for a cache key, and the cache after it. -/
def lookupOrDerive (s : KeyService) (cache : Option Cache) (seed : Bytes) (key : CacheKey) :
    Traced Bytes × Option Cache :=
  match cache.bind (·.use? key) with
  | some (publicKey, cache) => (pure publicKey, some cache)
  | none =>
    let fresh := s.freshPublicKey seed key.curve key.path
    match fresh.result, cache with
    | .ok publicKey, some c =>
      match c.store key publicKey with
      | .ok c => (fresh, some c)
      | .error f => (⟨.error f, fresh.events⟩, some c)
    | _, _ => (fresh, cache)

/-- The public key of an account, and the cache after it. -/
def publicKey (s : KeyService) (t : ChainTable) (cache : Option Cache) (seed : Bytes)
    (chain : Value) (path : Option String) (choice : CurveChoice) :
    Traced Bytes × Option Cache :=
  match s.cacheKey t seed chain path choice with
  | .error f => (.fail f, cache)
  | .ok key => s.lookupOrDerive cache seed key

end KeyService

end Signatory
