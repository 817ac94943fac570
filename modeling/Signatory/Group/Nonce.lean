import Signatory.Digest.Hmac

/-!
# Deterministic nonces

The nonce of an ECDSA signature made from the secret and the digest alone (RFC 6979,
with SHA-256), and from additional bytes where a scheme adds some.
-/

namespace Signatory.Nonce

/-- The leading bits of a byte string, as many as the order has. -/
def leadingBits (order : Nat) (bs : Bytes) : Nat :=
  Bytes.beNat bs >>> (8 * bs.length - (order.log2 + 1))

/-- A digest as 32 bytes below the order. -/
def reduced (order : Nat) (digest : Bytes) : Bytes :=
  let z := leadingBits order digest
  Bytes.beBytes 32 (if z < order then z else z - order)

/-- The first number in range that the keyed chain yields within the given tries. -/
def search (order : Nat) : (tries : Nat) → (key value : Bytes) → Option Nat
  | 0, _, _ => none
  | n + 1, key, value =>
    let value := Hash.sha256.hmac key value
    let candidate := leadingBits order value
    if 1 ≤ candidate ∧ candidate < order then some candidate
    else
      let key := Hash.sha256.hmac key (value ++ [0])
      search order n key (Hash.sha256.hmac key value)

/-- The nonce for a secret scalar and a digest, with `extra` bytes of additional data. -/
def generate (order secret : Nat) (digest extra : Bytes) : Option Nat :=
  let seed := Bytes.beBytes 32 secret ++ reduced order digest ++ extra
  let value : Bytes := List.replicate 32 1
  let key := Hash.sha256.hmac (List.replicate 32 0) (value ++ 0 :: seed)
  let value := Hash.sha256.hmac key value
  let key := Hash.sha256.hmac key (value ++ 1 :: seed)
  search order 64 key (Hash.sha256.hmac key value)

end Signatory.Nonce
