import Signatory.Digest.Keccak
import Signatory.Group.Pedersen
import Signatory.Starknet.Felt
import Signatory.Starknet.Request

/-!
# Invoke transactions

An account executes a list of calls. The calls are laid out in one list of numbers, the
calldata; the Pedersen hash of the calldata and the other fields is the hash of the
transaction.

1. `calldata` is the layout: the number of calls, four numbers for each, the number of
   data elements, the data elements.
2. `Invoke.hash` is the hash of a transaction of version 1.
3. `Transfer.toInvoke` and `Multicall.toInvoke` make transactions of requests.
-/

namespace Signatory.Starknet

/-! ## Hashes -/

/-- The Pedersen hash with an operand that may be out of range. -/
def hashStep (acc : Nat) (operand : Int) : Except Failure Nat :=
  if operand < 0 ∨ Bytes.capacity 32 ≤ operand then .error .numberOutOfRange
  else if operand < fieldPrime then .ok (Pedersen.hash acc operand.toNat)
  else .error .operandAbovePrime

/-- The hash of a list: its elements and then its length, folded from zero. -/
def hashElements (elements : List Int) : Except Failure Nat :=
  (elements ++ [(elements.length : Int)]).foldlM hashStep 0

/-- The lowest 250 bits of the Keccak digest of an ASCII text. -/
def shortKeccak (s : String) : Nat :=
  Bytes.beNat (Keccak.digest (Bytes.ascii s)) % (1 <<< 250)

/-- The number of a function name: its short Keccak digest. Two names stand for the default
entry points. -/
def selector (name : String) : Except Failure Nat :=
  if name = "__default__" ∨ name = "__l1_default__" then .ok 0
  else if name.toList.all fun c => c.toNat < 128 then
    .ok (shortKeccak name)
  else .error .notAscii

/-! ## Transactions -/

/-- A call of a contract function. -/
structure Call where
  target : Int
  selector : Int
  calldata : List Int
  deriving DecidableEq, Repr

/-- The headers of calls whose data starts at an offset. -/
def headers : (offset : Nat) → List Call → List Int
  | _, [] => []
  | offset, c :: cs =>
    c.target :: c.selector :: (offset : Int) :: (c.calldata.length : Int) ::
      headers (offset + c.calldata.length) cs

/-- The flat layout of calls. -/
def calldata (calls : List Call) : List Int :=
  let data := calls.flatMap (·.calldata)
  (calls.length : Int) :: headers 0 calls ++ (data.length : Int) :: data

/-- An invoke transaction. -/
structure Invoke where
  sender : Int
  calls : List Call
  maxFee : Int
  nonce : Int
  chainId : Int
  deriving DecidableEq, Repr

namespace Invoke

/-- The number of the text that the hash of a transaction starts with. -/
def mark : Nat := shortText "invoke"

/-- The transaction version. -/
def version : Nat := 1

/-- The numbers that are hashed, given the hash of the calldata. -/
def summary (tx : Invoke) (calldataHash : Nat) : List Int :=
  [mark, version, tx.sender, 0, calldataHash, tx.maxFee, tx.chainId, tx.nonce]

/-- The hash of a transaction. -/
def hash (tx : Invoke) : Except Failure Nat := do
  let calldataHash ← hashElements (calldata tx.calls)
  hashElements (tx.summary calldataHash)

end Invoke

/-! ## Requests as transactions -/

/-- The contract of the native token. -/
def tokenAddress : Nat :=
  0x049D36570D4E46F48E99674BD3FCC84644DDD6B96F7C741B1562B82F9E004DC7

/-- The selector of the token's `transfer` function. -/
def transferSelector : Nat :=
  shortKeccak "transfer"

/-- The transaction of a token transfer. -/
def Transfer.toInvoke (t : Transfer) : Except Failure Invoke := do
  let sender ← Felt.parse "sender" t.sender
  let recipient ← Felt.parse "to" t.recipient
  let amount ← Felt.parse "amount" t.amount
  let maxFee ← Felt.parse "max_fee" t.maxFee
  let chain ← Starknet.chainId t.chainId
  let nonce ← checkNonce t.nonce
  pure
    { sender := sender
      calls := [⟨tokenAddress, transferSelector, [(recipient : Int), (amount : Int)]⟩]
      maxFee := maxFee
      nonce := nonce
      chainId := chain }

/-- The call that a caller states. -/
def CallText.toCall (c : CallText) : Except Failure Call := do
  let target ← Felt.parse "to" c.target
  let selector ← Felt.parse "selector" c.selector
  let calldata ← c.calldata.mapM (Felt.parse "call_data")
  pure ⟨target, selector, calldata.map Int.ofNat⟩

/-- The transaction of several calls. -/
def Multicall.toInvoke (m : Multicall) : Except Failure Invoke := do
  if m.calls.isEmpty then throw .noCalls
  let sender ← Felt.parse "sender" m.sender
  let calls ← m.calls.mapM CallText.toCall
  let maxFee ← Felt.parse "max_fee" m.maxFee
  let nonce ← checkNonce m.nonce
  let chain ← Starknet.chainId m.chainId
  pure { sender := sender, calls, maxFee := maxFee, nonce := nonce, chainId := chain }

end Signatory.Starknet
