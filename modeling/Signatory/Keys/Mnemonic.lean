import Signatory.Digest.Hmac
import Signatory.Text.Blank
import Signatory.Text.Compatibility
import Signatory.Text.LetterCase

/-!
# Mnemonics

A master seed as a sentence of words with a checksum (BIP-39). Every word has an index in a list of
2048 words, which is left open.
-/

namespace Signatory.Mnemonic

/-- The words of a sentence, in lower case and with compatible characters made plain. -/
def split (sentence : String) : List String :=
  ((sentence.toList.splitBy fun a b => Text.isBlank a == Text.isBlank b).filter
    fun w => !w.all Text.isBlank).map fun w => Text.decomposed (Text.lower (String.ofList w))

/-- The numbers of words that a sentence may have. -/
def wordCounts : List Nat := [12, 15, 18, 21, 24]

/-- Whether word indexes carry the right checksum: behind the entropy stand the leading
bits of its SHA-256 digest, one for every three words. -/
def checksumHolds (indexes : List Nat) : Bool :=
  let checksumBits := indexes.length / 3
  let n := indexes.foldl (fun n i => n * 2048 + i) 0
  let entropy := Bytes.beBytes (4 * checksumBits) (n >>> checksumBits)
  let digest := Bytes.beNat ((Sha256.digest entropy).take 1)
  n % (1 <<< checksumBits) = digest >>> (8 - checksumBits)

/-- The 64-byte seed of a sentence and a passphrase; `index?` finds words in the list. -/
def seed? (index? : String → Option Nat) (sentence passphrase : String) : Option Bytes := do
  let ws := split sentence
  if !wordCounts.contains ws.length then none
  else
    let indexes ← ws.mapM index?
    if checksumHolds indexes then
      some (Hash.sha512.stretch (Bytes.ofText (" ".intercalate ws))
        (Bytes.ofText (Text.decomposed ("mnemonic" ++ passphrase))) 2048)
    else none

end Signatory.Mnemonic
