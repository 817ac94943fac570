import Signatory.Model.Checked

/-!
# Starknet requests

What a caller asks to be signed on Starknet: a token transfer, or a raw transaction. A raw
transaction is a text, either the JSON form of a `Multicall` or a hash in hexadecimal.
Numbers below the field prime are texts. `Output` is the signed transaction.
-/

namespace Signatory.Starknet

open Check

/-- A transfer of the native token. -/
structure Transfer where
  sender : String
  nonce : Nat
  recipient : String
  amount : String
  maxFee : String
  chainId : String
  deriving DecidableEq, Repr

/-- A contract call as the caller states it. -/
structure CallText where
  target : String
  selector : String
  calldata : List String
  deriving DecidableEq, Repr

/-- A transaction of several calls. -/
structure Multicall where
  sender : String
  calls : List CallText
  nonce : Int
  chainId : String
  maxFee : String
  deriving DecidableEq, Repr

/-- The two ways to state a transaction. Exactly one is meant to be given. -/
structure Input where
  raw : Option String
  transfer : Option Transfer
  deriving DecidableEq, Repr

structure Output where
  contractAddress : String
  calldata : List String
  signature : String
  maxFee : String
  nonce : String
  deriving DecidableEq, Repr

namespace Transfer

def check : Value → Checked Transfer :=
  ofObject fun fs =>
    mk <$> optional fs "sender" "" text
      <*> optional fs "nonce" 0 natural
      <*> optional fs "to" "" text
      <*> optional fs "amount" "" text
      <*> optional fs "max_fee" "" text
      <*> optional fs "chain_id" "" text

def toValue (t : Transfer) : Value :=
  .object [("sender", .text t.sender), ("nonce", .int t.nonce), ("to", .text t.recipient),
    ("amount", .text t.amount), ("max_fee", .text t.maxFee), ("chain_id", .text t.chainId)]

def model : Model Transfer := ⟨check, toValue⟩

end Transfer

namespace CallText

def check : Value → Checked CallText :=
  ofObject fun fs =>
    mk <$> required fs "to" text
      <*> required fs "selector" text
      <*> optional fs "call_data" [] (listOf text)

def toValue (c : CallText) : Value :=
  .object [("to", .text c.target), ("selector", .text c.selector),
    ("call_data", .list (c.calldata.map .text))]

def model : Model CallText := ⟨check, toValue⟩

end CallText

namespace Multicall

def check : Value → Checked Multicall :=
  ofObject fun fs =>
    mk <$> required fs "sender" text
      <*> required fs "calls" (listOf CallText.check)
      <*> required fs "nonce" integer
      <*> required fs "chain_id" text
      <*> required fs "max_fee" text

def toValue (m : Multicall) : Value :=
  .object [("sender", .text m.sender), ("calls", .list (m.calls.map CallText.toValue)),
    ("nonce", .int m.nonce), ("chain_id", .text m.chainId), ("max_fee", .text m.maxFee)]

def model : Model Multicall := ⟨check, toValue⟩

end Multicall

namespace Input

def check : Value → Checked Input :=
  ofObject fun fs =>
    mk <$> nullable fs "raw_tx" text <*> nullable fs "transfer" Transfer.check

def toValue (i : Input) : Value :=
  .object [("raw_tx", .ofOption Value.text i.raw),
    ("transfer", .ofOption Transfer.toValue i.transfer)]

def model : Model Input := ⟨check, toValue⟩

end Input

namespace Output

def check : Value → Checked Output :=
  ofObject fun fs =>
    mk <$> optional fs "contract_address" "" text
      <*> optional fs "call_data" [] (listOf text)
      <*> optional fs "signature" "" text
      <*> optional fs "max_fee" "" text
      <*> optional fs "nonce" "" text

def toValue (o : Output) : Value :=
  .object [("contract_address", .text o.contractAddress),
    ("call_data", .list (o.calldata.map .text)), ("signature", .text o.signature),
    ("max_fee", .text o.maxFee), ("nonce", .text o.nonce)]

def model : Model Output := ⟨check, toValue⟩

end Output

end Signatory.Starknet
