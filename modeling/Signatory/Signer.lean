import Signatory.Accounts
import Signatory.Codec
import Signatory.Keys.Service

/-!
# The signer

Signs requests: checks a request, prepares its message, derives the sender's key, signs,
and assembles the signed output. The key is released on every way out.

1. `Signer.sign` signs one request, `signMany` several.
2. `Signer.address` is the address of an account.
-/

namespace Signatory

/-- A request as a model, or as an untyped value that is checked first. -/
inductive RequestLike where
  | model (r : Request)
  | value (v : Value)

/-- The codecs by the normal form of their tags. -/
structure CodecTable where
  entries : List (String × Codec)

namespace CodecTable

def standard : CodecTable :=
  ⟨[("SUI", .sui), ("STARKNET", .starknet)]⟩

def register (t : CodecTable) (c : Codec) : CodecTable :=
  ⟨putPair t.entries (Tag.normal c.chain) c⟩

/-- The codec of a tag. -/
def find (t : CodecTable) (tag : Value) : Except Failure Codec := do
  match t.entries.lookup (← Tag.ofValue tag) with
  | some c => pure c
  | none => throw (Tag.unknown tag)

end CodecTable

/-- What a signer works with. -/
structure Signer where
  keys : KeyService
  chains : ChainTable
  codecs : CodecTable
  /-- The room for the type tags of Sui transactions. -/
  nesting : Sui.Nesting

namespace Signer

def standard : Signer := ⟨.standard, .standard, .standard, .standard⟩

/-- A text that is not empty. -/
def given? (s : Option String) : Option String :=
  s.filter fun s => !s.isEmpty

/-- Checks a request. An unknown chain is reported as such, whatever else is wrong. -/
def validate (s : Signer) : RequestLike → Traced Request
  | .model r => pure r
  | .value v => do
    if let .object fields := v then
      let _ ← s.codecs.find ((fields.lookup "chain").getD .null)
    match Request.check v with
    | .valid r => pure r
    | .invalid issues => do
      .log .signer .error ("Invalid signing request: " ++ Failure.cause)
      Traced.fail (.invalidRequest issues)

/-- The unsigned transaction of a request, with the sender that the request states. -/
def unsigned (n : Sui.Nesting) (c : Codec) (r : Request) : Traced (Unsigned c.Body) := do
  let input ← c.inputOf (c.carried r)
  let u ← c.prepare n input
  match given? r.sender with
  | some sender => pure { u with sender := some sender }
  | none => pure u

/-- The account path that a request states, or that of its sender. -/
def accountPath (accounts : AccountProvider) (r : Request) (chain : String) (curve : Curve)
    (sender : Option String) : Except Failure (Option String) :=
  match given? r.accountPath with
  | some path => .ok (some path)
  | none => accounts.accountPath chain curve sender

/-- The public key and the signature that a handle gives for a payload. -/
def signWith (b : Backend) (payload : Payload) (key : KeyHandle) : Traced (Bytes × Signature) := do
  let publicKey ← b.publicKey key
  let signature ← (b.sign payload (some key)).1
  pure (publicKey, signature)

/-- Signs a request. -/
def sign (s : Signer) (accounts : AccountProvider) (request : RequestLike) :
    Traced SignedOutput := do
  let r ← s.validate request
  let codec ← s.codecs.find (.text r.chain)
  let curve ← s.chains.curveFor (.text codec.chain) (.ofName? r.curve)
  let u ← unsigned s.nesting codec r
  let path ← accountPath accounts r codec.chain curve u.sender
  let seed ← accounts.seed
  let key ← s.keys.derive s.chains seed (.text codec.chain) path (.exactly curve)
  let (publicKey, signature) ← Traced.withKey key (signWith (s.keys.backend curve) u.payload)
  let output ← codec.assemble u signature publicKey
  .debug .signer ("Signed " ++ codec.chain ++ " transaction with " ++ curve.name ++ " key at " ++
    path.getD "None" ++ s!" ({u.payload.message.length}-byte message)")
  codec.signedOutput output

/-- How many requests are signed at a time. -/
def workers (settings : Settings) (wanted : Option Int) (count : Nat) : Int :=
  let wanted := match wanted with
    | some n => if n = 0 then settings.maxWorkers else n
    | none => settings.maxWorkers
  min wanted count

/-- Signs several requests. The failure of the first one that fails is that of all. -/
def signMany (s : Signer) (settings : Settings) (accounts : AccountProvider)
    (requests : List RequestLike) (wanted : Option Int) : Except Failure (List SignedOutput) :=
  if requests.isEmpty then .ok []
  else if workers settings wanted requests.length < 1 then .error .noWorkers
  else requests.mapM fun r => (s.sign accounts r).result

/-- The address of an account, and the cache after it. -/
def address (s : Signer) (cache : Option Cache) (accounts : AccountProvider) (chain : Value)
    (path : Option String) (choice : CurveChoice) : Traced String × Option Cache :=
  let resolved : Except Failure (Codec × Curve × Bytes) := do
    let codec ← s.codecs.find chain
    let curve ← s.chains.curveFor (.text codec.chain) choice
    let seed ← accounts.seed
    pure (codec, curve, seed)
  match resolved with
  | .error f => (.fail f, cache)
  | .ok (codec, curve, seed) =>
    let (publicKey, cache) :=
      s.keys.publicKey s.chains cache seed (.text codec.chain) path (.exactly curve)
    (do codec.address (← publicKey) curve, cache)

end Signer

end Signatory
