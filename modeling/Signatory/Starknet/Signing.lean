import Signatory.Journal
import Signatory.Starknet.Account
import Signatory.Unsigned

/-!
# Signing Starknet transactions

The message of a transaction is its hash in 32 bytes. A raw transaction is a multicall in
JSON, which is hashed, or a hash itself, which is signed as it is.
-/

namespace Signatory.Starknet

/-- The unsigned transaction of an invoke transaction. Fee, nonce and sender stand in the
output as the caller stated them. -/
def Invoke.unsigned (tx : Invoke) (maxFee : String) (nonce : Int) (sender : String) :
    Except Failure (Unsigned Output) := do
  let hash ← tx.hash
  let contractAddress ← Felt.format tx.sender
  let calldata ← (calldata tx.calls).mapM Felt.format
  pure
    { payload := .ofMessage (Bytes.beBytes 32 hash)
      body := { contractAddress, calldata, signature := "", maxFee, nonce := Text.signed nonce }
      sender := some sender }

def prepareInvoke (tx : Invoke) (maxFee : String) (nonce : Int) (sender : String) :
    Traced (Unsigned Output) := do
  .debug .starknet (s!"Built Starknet invoke with {tx.calls.length} calls, " ++
    s!"{(calldata tx.calls).length} calldata elements")
  tx.unsigned maxFee nonce sender

/-- The unsigned transaction of a transfer. -/
def prepareTransfer (t : Transfer) : Traced (Unsigned Output) := do
  prepareInvoke (← t.toInvoke) t.maxFee t.nonce t.sender

/-- The message of a hash in hexadecimal, with or without `0x`. -/
def hashMessage (cs : List Char) : Except Failure Bytes :=
  let ds := if Text.hasHexMark cs then cs.drop 2 else cs
  if ds.isEmpty ∨ ¬ ds.all Text.isHexDigit then .error (.invalidText "raw_tx" (String.ofList cs))
  else
    let bytes := (Text.Hex.decode? (if ds.length % 2 = 1 then '0' :: ds else ds)).getD []
    if 32 < bytes.length then .error .rawHashTooLong else .ok (Bytes.padLeft 32 bytes)

/-- The output of a transaction of which only the hash is known. -/
def Output.blank : Output := ⟨"", [], "", "", ""⟩

/-- The multicall of a JSON text. -/
def Multicall.ofJson (s : String) : Except Failure Multicall :=
  match Multicall.model.readJson s with
  | .error (.invalidModel issues) => .error (.invalidRawJson issues)
  | r => r

/-- The unsigned transaction of a raw one. -/
def prepareRaw (raw : String) : Traced (Unsigned Output) := do
  let cs := Text.trim Text.isBlank raw.toList
  if cs.head? = some '\x7b' then
    let m ← Multicall.ofJson (String.ofList cs)
    prepareInvoke (← m.toInvoke) m.maxFee m.nonce m.sender
  else
    let message ← hashMessage cs
    pure ⟨.ofMessage message, .blank, none⟩

/-- The signed transaction. A contract address that is not known yet is that of the
sender. -/
def assemble (u : Unsigned Output) (s : Signature) : Except Failure Output := do
  let signed := { u.body with signature := Text.Hex.encode s.value }
  if signed.contractAddress.isEmpty then
    match u.sender with
    | none => pure signed
    | some sender =>
      if sender.isEmpty then pure signed
      else
        let n ← Felt.parse "sender" sender
        let contractAddress ← Felt.format n
        pure { signed with contractAddress }
  else pure signed

/-- The address of the account of a public key. -/
def addressOf (publicKey : Bytes) : Except Failure String := do
  let a ← Account.address (Bytes.beNat publicKey)
  Felt.format a

end Signatory.Starknet
