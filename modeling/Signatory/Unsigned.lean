import Signatory.Payload

/-!
# Unsigned transactions

What a chain prepares from a request: the payload to sign, a body for the signed output,
and the sender if the chain can tell.
-/

namespace Signatory

structure Unsigned (Body : Type) where
  payload : Payload
  body : Body
  sender : Option String
  deriving Repr

end Signatory
