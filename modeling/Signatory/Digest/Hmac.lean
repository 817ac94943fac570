import Signatory.Digest.Sha256
import Signatory.Digest.Sha512

/-!
# Keyed digests and key stretching

`Hmac` keys a digest (RFC 2104), and `stretch` repeats a keyed digest to make a slow
function of a password and a salt (PBKDF2, one block of output).
-/

namespace Signatory

/-- A digest together with the block length that keying it needs. -/
structure Hash where
  blockLength : Nat
  digest : Bytes → Bytes

namespace Hash

def sha256 : Hash := ⟨64, Sha256.digest⟩
def sha512 : Hash := ⟨128, Sha512.digest⟩

/-- The key as one block: digested first if it is longer, then filled with zeros. -/
def keyBlock (hash : Hash) (key : Bytes) : Bytes :=
  let k := if hash.blockLength < key.length then hash.digest key else key
  k ++ List.replicate (hash.blockLength - k.length) 0

/-- The keyed digest of a message. -/
def hmac (hash : Hash) (key message : Bytes) : Bytes :=
  let block := hash.keyBlock key
  hash.digest (block.map (· ^^^ 0x5c) ++ hash.digest (block.map (· ^^^ 0x36) ++ message))

/-- The running exclusive-or of a chain of keyed digests. -/
def stretchFrom (hash : Hash) (password : Bytes) : (rounds : Nat) → Bytes → Bytes → Bytes
  | 0, _, total => total
  | n + 1, last, total =>
    let next := hash.hmac password last
    stretchFrom hash password n next (total.zipWith (· ^^^ ·) next)

/-- One digest's length of key material from a password and a salt. -/
def stretch (hash : Hash) (password salt : Bytes) (rounds : Nat) : Bytes :=
  let first := hash.hmac password (salt ++ [0, 0, 0, 1])
  stretchFrom hash password (rounds - 1) first first

end Hash

end Signatory
