import Signatory.Failure
import Signatory.Text.Hex

/-!
# Payloads

A payload is a message to be signed, with the bytes it was made from. It can be consumed
once.
-/

namespace Signatory

structure Payload where
  message : Bytes
  /-- The bytes that the message was made from. -/
  preimage : Bytes
  consumed : Bool
  deriving DecidableEq, Repr

namespace Payload

/-- A fresh payload of a message and what it was made from. -/
def make (message preimage : Bytes) : Payload := ⟨message, preimage, false⟩

/-- A fresh payload that is signed as it is. -/
def ofMessage (message : Bytes) : Payload := make message message

/-- Takes the message out. After that the payload is consumed, whether it was before or
not. -/
def consume (p : Payload) : Except Failure Bytes × Payload :=
  if p.consumed then (.error .payloadConsumed, p)
  else (.ok p.message, { p with consumed := true })

def text (p : Payload) : String :=
  "SignablePayload(message=" ++ Text.Hex.encode p.message ++ ", consumed=" ++
    (if p.consumed then "True" else "False") ++ ")"

@[simp] theorem consume_snd_consumed (p : Payload) : p.consume.2.consumed = true := by
  unfold consume
  split <;> simp_all

end Payload

/-- Signature bytes and the curve they belong to. -/
structure Signature where
  curve : Curve
  value : Bytes
  deriving DecidableEq, Repr

end Signatory
