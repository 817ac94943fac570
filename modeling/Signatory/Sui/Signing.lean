import Signatory.Digest.Blake2b
import Signatory.Journal
import Signatory.Sui.Transfer
import Signatory.Text.Base64
import Signatory.Unsigned

/-!
# Signing Sui transactions

The message of a transaction is the BLAKE2b digest of an intent and the serialized
transaction. A serialized signature is base 64 text of a flag for the curve, the signature
and the public key.
-/

namespace Signatory.Sui

/-- The intent of a transaction of the first version. -/
def transactionIntent : Bytes := [0, 0, 0]

/-- The bytes of a text: hexadecimal digits behind `0x`, base 64 otherwise. -/
def decodeText (field text : String) : Except Failure Bytes :=
  let cs := Text.trim Text.isBlank text.toList
  let bytes := if Text.hasHexMark cs then Text.Hex.decode? (cs.drop 2) else Text.Base64.decode? cs
  match bytes with
  | some bs => .ok bs
  | none => .error (.undecodable field)

/-- The payload of an intent and a serialized transaction. -/
def signingMessage (intent data : Bytes) : Payload :=
  .make (Blake2b.digest256 (intent ++ data)) (intent ++ data)

/-! ## Serialized signatures -/

/-- The flags of the curves. -/
def flags : List (Curve × Nat) :=
  [(.ed25519, 0), (.secp256k1, 1), (.p256, 2)]

def flag (c : Curve) : Except Failure UInt8 :=
  match flags.lookup c with
  | some n => .ok (UInt8.ofNat n)
  | none => .error (.noFlag c)

def curveOfFlag? (b : UInt8) : Option Curve :=
  (flags.find? fun f => f.2 == b.toNat).map (·.1)

def serializeSignature (s : Signature) (publicKey : Bytes) : Except Failure String := do
  let flag ← flag s.curve
  pure (Text.Base64.encode (flag :: s.value ++ publicKey))

/-- The signature and the public key in a serialized signature. -/
def parseSignature (serialized : String) : Except Failure (Signature × Bytes) := do
  match ← decodeText "signature" serialized with
  | [] => throw .signatureTooShort
  | b :: rest =>
    if rest.length < 64 then throw .signatureTooShort
    match curveOfFlag? b with
    | some c => pure (⟨c, rest.take 64⟩, rest.drop 64)
    | none => throw (.unknownFlag b.toNat)

/-- The address of a public key. -/
def addressOf (publicKey : Bytes) (c : Curve) : Except Failure String := do
  let flag ← flag c
  pure (Address.format (Blake2b.digest256 (flag :: publicKey)))

/-! ## Preparing and assembling -/

/-- The unsigned transaction of a transfer. -/
def prepareTransfer (n : Nesting) (t : Transfer) : Traced (Unsigned String) := do
  let data ← t.encode n
  .debug .sui (s!"Built {data.length}-byte Sui transfer from " ++
    String.ofList (t.sender.toList.take 10) ++ "...")
  pure ⟨signingMessage transactionIntent data, Text.Base64.encode data, some t.sender⟩

/-- The sender of a raw transaction, if its intent is that of transactions and it can be
read. Malformed data is signed all the same. -/
def rawSender (n : Nesting) (intent data : Bytes) : Traced (Option String) :=
  if intent.head? = transactionIntent.head? then
    match Transaction.decode n data with
    | .ok tx => pure (some (Address.format tx.sender))
    | .error f =>
      if f.code? = some .malformedIntent then do
        .debug .sui ("Raw Sui transaction does not decode, sender unknown: " ++ f.message)
        pure none
      else .fail f
  else pure none

/-- A field of a raw transaction, which may not be empty. -/
def rawField (field text : String) : Except Failure Bytes := do
  let bs ← decodeText field text
  if bs.isEmpty then throw (.emptyRaw field)
  pure bs

/-- The unsigned transaction of a raw one, which is not encoded again. -/
def prepareRaw (n : Nesting) (r : RawTransaction) : Traced (Unsigned String) := do
  let intent ← rawField "intent" r.intent
  let data ← rawField "tx_data" r.data
  let sender ← rawSender n intent data
  pure ⟨signingMessage intent data, r.data, sender⟩

/-- The signed transaction. -/
def assemble (u : Unsigned String) (s : Signature) (publicKey : Bytes) : Except Failure Output := do
  pure ⟨u.body, ← serializeSignature s publicKey⟩

end Signatory.Sui
