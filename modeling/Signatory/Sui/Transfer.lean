import Signatory.Sui.Encoding
import Signatory.Sui.Request

/-!
# Transfers as transactions

A transfer becomes a transaction of one of two shapes. An amount is split off the gas coin
and handed to the recipient; an object is handed over as it is. The recipient is the first
input. `Transfer.ofTransaction` recognizes the two shapes.
-/

namespace Signatory.Sui

namespace Reference

/-- The reference in a transaction. Id and digest must have 32 bytes each. -/
def toObjectRef (field : String) (r : Reference) : Except Failure ObjectRef :=
  if r.id.length ≠ addressLength then .error (.wrongLength field "object_id" r.id.length)
  else if r.digest.length ≠ addressLength then
    .error (.wrongLength field "object_digest" r.digest.length)
  else .ok ⟨r.id, r.version, r.digest⟩

def ofObjectRef (r : ObjectRef) : Reference :=
  ⟨r.id, r.version.toNat, r.digest⟩

/-- A reference that must be given. -/
def require (field : String) : Option Reference → Except Failure ObjectRef
  | none => .error (.missing field)
  | some r => r.toObjectRef field

end Reference

namespace Transfer

/-- The commands that hand over an amount, the second input. -/
def amountCommands : List Command :=
  [.splitCoins .gasCoin [.input 1], .transferObjects [.result 0] (.input 0)]

/-- The commands that hand over an object, the second input. -/
def objectCommands : List Command :=
  [.transferObjects [.input 1] (.input 0)]

/-- What is handed over: the second input and the commands. -/
def subject (t : Transfer) : Except Failure (CallArg × List Command) :=
  match t.amount with
  | some n => do
    let amount ← (Bcs.Write.uint .u64 n).result
    pure (.pure amount, amountCommands)
  | none => do
    let ref ← Reference.require "object" t.object
    pure (.owned ref, objectCommands)

/-- The transaction of a transfer. -/
def toTransaction (t : Transfer) : Except Failure Transaction := do
  if t.amount.isNone = t.object.isNone then throw .oneTransferKind
  let recipient ← Address.parse "recipient" t.recipient
  let sender ← Address.parse "sender" t.sender
  let gas ← Reference.require "gas_payment" t.gasPayment
  let (subject, commands) ← t.subject
  pure
    { inputs := [.pure recipient, subject]
      commands
      sender
      gas := ⟨[gas], sender, t.gasPrice, t.gasBudget⟩
      expiration := none }

/-- The serialized transaction of a transfer. -/
def encode (n : Nesting) (t : Transfer) : Except Failure Bytes := do
  (← t.toTransaction).encode n

/-- The transfer that a transaction carries out. -/
def ofTransaction (tx : Transaction) : Except Failure Transfer :=
  match tx.gas.payment with
  | [gas] =>
    if tx.gas.owner ≠ tx.sender then .error (.notATransfer "gas data")
    else
      match tx.inputs with
      | [.pure recipient, subject] =>
        if recipient.length ≠ addressLength then .error (.notATransfer "inputs")
        else
          let transfer (amount : Option Nat) (object : Option Reference) : Transfer :=
            { amount, object
              recipient := Address.format recipient
              sender := Address.format tx.sender
              gasPayment := some (Reference.ofObjectRef gas)
              gasBudget := tx.gas.budget.toNat
              gasPrice := tx.gas.price.toNat }
          match subject with
          | .pure value =>
            if value.length = 8 ∧ tx.commands = amountCommands then
              .ok (transfer (some (Bytes.leNat value)) none)
            else .error (.notATransfer "commands")
          | .owned ref =>
            if tx.commands = objectCommands then
              .ok (transfer none (some (Reference.ofObjectRef ref)))
            else .error (.notATransfer "commands")
          | _ => .error (.notATransfer "commands")
      | _ => .error (.notATransfer "inputs")
  | _ => .error (.notATransfer "gas data")

/-- The transfer that a serialized transaction carries out. -/
def decode (n : Nesting) (data : Bytes) : Except Failure Transfer := do
  ofTransaction (← Transaction.decode n data)

end Transfer

end Signatory.Sui
