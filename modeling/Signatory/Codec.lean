import Signatory.Request
import Signatory.Starknet.Signing
import Signatory.Sui.Signing

/-!
# Codecs

A codec knows the requests of one chain: it takes the chain's payload out of a request,
prepares the message to sign and assembles the signed output. Two chains are built in;
others are added as an `Extension`.
-/

namespace Signatory

/-- The codec of an added chain. Its payload, body and output are untyped values. -/
structure Extension where
  chain : String
  /-- The field of requests and outputs that carries the chain's payload. -/
  field : String
  /-- The check of a payload. -/
  check : Value → Checked Value
  encode : Value → Except Failure (Unsigned Value)
  raw : Value → Except Failure (Unsigned Value)
  assemble : Unsigned Value → Signature → Bytes → Except Failure Value
  address : Bytes → Curve → Except Failure String

inductive Codec where
  | sui
  | starknet
  | extension (e : Extension)

/-- What a request carries for a codec: nothing, a payload of another codec that was
checked before, or an unchecked value. -/
inductive Carried (α : Type) where
  | nothing
  | checked (input : α)
  | foreign
  | value (v : Value)

namespace Codec

def chain : Codec → String
  | sui => "SUI"
  | starknet => "STARKNET"
  | extension e => e.chain

def field : Codec → String
  | sui => "sui"
  | starknet => "starknet"
  | extension e => e.field

/-- The payload of a chain. -/
abbrev Input : Codec → Type
  | sui => Sui.Input
  | starknet => Starknet.Input
  | extension _ => Value

/-- What an unsigned transaction keeps for the output. -/
abbrev Body : Codec → Type
  | sui => String
  | starknet => Starknet.Output
  | extension _ => Value

/-- The part of an output that belongs to a chain. -/
abbrev Output : Codec → Type
  | sui => Sui.Output
  | starknet => Starknet.Output
  | extension _ => Value

/-- The payload of a chain as a model. -/
def inputModel : (c : Codec) → Model c.Input
  | sui => Sui.Input.model
  | starknet => Starknet.Input.model
  | extension e => ⟨e.check, fun v => v⟩

/-- The value that stands for an output. -/
def outputValue : (c : Codec) → c.Output → Value
  | sui, o => o.toValue
  | starknet, o => o.toValue
  | extension _, v => v

def bodyValue : (c : Codec) → c.Body → Value
  | sui, s => .text s
  | starknet, o => o.toValue
  | extension _, v => v

/-! ## Taking the payload out of a request -/

/-- A payload that was checked with the request. -/
def carriedInput {α : Type} : Option α → Carried α
  | some a => .checked a
  | none => .nothing

/-- A payload that was checked with the request, seen by another codec. -/
def carriedForeign {α β : Type} : Option α → Carried β
  | some _ => .foreign
  | none => .nothing

def carriedValue {α : Type} : Option Value → Carried α
  | none | some .null => .nothing
  | some v => .value v

/-- What a request carries in the field of a codec. -/
def carried (r : Request) : (c : Codec) → Carried c.Input
  | sui => carriedInput r.sui
  | starknet => carriedInput r.starknet
  | extension e =>
    match e.field with
    | "sui" => carriedForeign r.sui
    | "starknet" => carriedForeign r.starknet
    | "chain" => .value (.text r.chain)
    | "sender" => carriedValue (r.sender.map .text)
    | "curve" => carriedValue (r.curve.map .text)
    | "account_path" => carriedValue (r.accountPath.map .text)
    | field => carriedValue (r.extra.lookup field)

/-- The payload of a chain, checked if it was not before. -/
def inputOf (c : Codec) : Carried c.Input → Except Failure c.Input
  | .nothing => .error (.noPayload c.chain c.field)
  | .checked input => .ok input
  | .foreign => .error (.invalidPayload c.chain c.field [⟨[], .noObject⟩])
  | .value v =>
    match c.inputModel.check v with
    | .valid input => .ok input
    | .invalid issues => .error (.invalidPayload c.chain c.field issues)

/-! ## Preparing and assembling -/

/-- Exactly one of the two ways to state a transaction must be given. -/
def prepareOne {α β γ : Type} (c : Codec) (raw : Option α) (transfer : Option β)
    (ofRaw : α → Traced γ) (ofTransfer : β → Traced γ) : Traced γ :=
  match raw, transfer with
  | some r, none => do
    .debug .codec ("Using raw " ++ c.chain ++ " transaction")
    ofRaw r
  | none, some t => ofTransfer t
  | _, _ => .fail (.rawOrTransfer c.chain c.field)

/-- A field of a value, unless it is absent or null. -/
def given? (v : Value) (name : String) : Option Value :=
  match v.field? name with
  | none | some .null => none
  | some v => some v

/-- The unsigned transaction of a payload. -/
def prepare (n : Sui.Nesting) : (c : Codec) → c.Input → Traced (Unsigned c.Body)
  | sui, i => prepareOne sui i.raw i.transfer (Sui.prepareRaw n) (Sui.prepareTransfer n)
  | starknet, i =>
    prepareOne starknet i.raw i.transfer Starknet.prepareRaw Starknet.prepareTransfer
  | extension e, v =>
    prepareOne (extension e) (given? v "raw_tx") (given? v "transfer")
      (fun r => .ofExcept (e.raw r)) (fun t => .ofExcept (e.encode t))

/-- The chain's part of the output. -/
def assemble : (c : Codec) → Unsigned c.Body → Signature → Bytes → Except Failure c.Output
  | sui, u, s, publicKey => Sui.assemble u s publicKey
  | starknet, u, s, _ => Starknet.assemble u s
  | extension e, u, s, publicKey => e.assemble u s publicKey

/-- The signed output of a chain. -/
def signedOutput : (c : Codec) → c.Output → Except Failure SignedOutput
  | sui, o => .ok ⟨"SUI", some o, none, []⟩
  | starknet, o => .ok ⟨"STARKNET", none, some o, []⟩
  | extension e, v =>
    if e.field = "sui" ∨ e.field = "starknet" then
      .error (.invalidModel [⟨[e.field], .noObject⟩])
    else .ok ⟨e.chain, none, none, [(e.field, v)]⟩

/-- The address of a public key. -/
def address : Codec → Bytes → Curve → Except Failure String
  | sui, publicKey, curve => Sui.addressOf publicKey curve
  | starknet, publicKey, _ => Starknet.addressOf publicKey
  | extension e, publicKey, curve => e.address publicKey curve

end Codec

end Signatory
