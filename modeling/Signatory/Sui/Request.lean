import Signatory.Model.Identifier

/-!
# Sui requests

What a caller asks to be signed on Sui: a transfer of an amount or an object, or a raw
transaction that was built elsewhere. `Output` is the signed transaction.
-/

namespace Signatory.Sui

open Check

/-- An object reference as the caller states it. -/
structure Reference where
  id : Bytes
  version : Nat
  digest : Bytes
  deriving DecidableEq, Repr

/-- A transfer. Exactly one of `amount` and `object` is meant to be given. -/
structure Transfer where
  amount : Option Nat
  object : Option Reference
  recipient : String
  sender : String
  gasPayment : Option Reference
  gasBudget : Nat
  gasPrice : Nat
  deriving DecidableEq, Repr

/-- A transaction built elsewhere: its intent and its serialized form, as texts. -/
structure RawTransaction where
  intent : String
  data : String
  deriving DecidableEq, Repr

/-- The two ways to state a transaction. Exactly one is meant to be given. -/
structure Input where
  raw : Option RawTransaction
  transfer : Option Transfer
  deriving DecidableEq, Repr

structure Output where
  data : String
  signature : String
  deriving DecidableEq, Repr

namespace Reference

def check : Value → Checked Reference :=
  ofObject fun fs =>
    mk <$> optional fs "object_id" [] Identifier.id
      <*> optional fs "seq_num" 0 natural
      <*> optional fs "object_digest" [] Identifier.digest

def toValue (r : Reference) : Value :=
  .object [("object_id", .bytes r.id), ("seq_num", .int r.version),
    ("object_digest", .bytes r.digest)]

def model : Model Reference := ⟨check, toValue⟩

end Reference

namespace Transfer

/-- The amount of a transfer is an object of its own. -/
def amountModel : Model Nat where
  check := ofObject fun fs => optional fs "amount" 0 natural
  toValue n := .object [("amount", .int n)]

/-- The object of a transfer goes by two names; the first one present counts. -/
def checkObject (fs : Fields) : Checked (Option Reference) :=
  if (fs.lookup "object").isSome then nullable fs "object" Reference.check
  else nullable fs "object_ref" Reference.check

def check : Value → Checked Transfer :=
  ofObject fun fs =>
    mk <$> nullable fs "sui" amountModel.check
      <*> checkObject fs
      <*> optional fs "recipient" "" text
      <*> optional fs "sender" "" text
      <*> nullable fs "gas_payment" Reference.check
      <*> optional fs "gas_budget" 0 natural
      <*> optional fs "gas_price" 0 natural

def toValue (t : Transfer) : Value :=
  .object [("sui", .ofOption amountModel.toValue t.amount),
    ("object_ref", .ofOption Reference.toValue t.object),
    ("recipient", .text t.recipient), ("sender", .text t.sender),
    ("gas_payment", .ofOption Reference.toValue t.gasPayment),
    ("gas_budget", .int t.gasBudget), ("gas_price", .int t.gasPrice)]

def model : Model Transfer := ⟨check, toValue⟩

end Transfer

namespace RawTransaction

def check : Value → Checked RawTransaction :=
  ofObject fun fs => mk <$> optional fs "intent" "" text <*> optional fs "tx_data" "" text

def toValue (r : RawTransaction) : Value :=
  .object [("intent", .text r.intent), ("tx_data", .text r.data)]

def model : Model RawTransaction := ⟨check, toValue⟩

end RawTransaction

namespace Input

def check : Value → Checked Input :=
  ofObject fun fs =>
    mk <$> nullable fs "raw_tx" RawTransaction.check <*> nullable fs "transfer" Transfer.check

def toValue (i : Input) : Value :=
  .object [("raw_tx", .ofOption RawTransaction.toValue i.raw),
    ("transfer", .ofOption Transfer.toValue i.transfer)]

def model : Model Input := ⟨check, toValue⟩

end Input

namespace Output

def check : Value → Checked Output :=
  ofObject fun fs => mk <$> required fs "tx_data" text <*> required fs "signature" text

def toValue (o : Output) : Value :=
  .object [("tx_data", .text o.data), ("signature", .text o.signature)]

def model : Model Output := ⟨check, toValue⟩

end Output

end Signatory.Sui
