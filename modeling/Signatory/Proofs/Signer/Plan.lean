import Signatory.Proofs.Starknet.Preparing
import Signatory.Proofs.Sui.Preparing
import Signatory.Proofs.Sui.Verbatim
import Signatory.Signer

/-!
# Signing in two stages

Signing a request is `plan`, which does all that needs no key, and then `perform`, which derives the
key, signs and assembles the output (`sign_eq`).

1. `isQuiet_plan`: planning touches no key.
2. `plan_eq_ok_iff` says what a plan is made of.
3. `signsHash_of_lateSender?`: a sender that is read late, when the output is assembled, is one
   for whom a bare hash is signed.
-/

namespace Signatory

open Outcome

/-- What is settled about a request before a key is derived. -/
structure Plan where
  codec : Codec
  curve : Curve
  unsigned : Unsigned codec.Body
  path : Option String
  seed : Bytes

namespace Signer

variable {s : Signer} {accounts : AccountProvider} {request : RequestLike}

/-- The steps before a key is derived. -/
def plan (s : Signer) (accounts : AccountProvider) (request : RequestLike) : Traced Plan := do
  let r ← s.validate request
  let codec ← s.codecs.find (.text r.chain)
  let curve ← s.chains.curveFor (.text codec.chain) (.ofName? r.curve)
  let u ← unsigned s.nesting codec r
  let path ← accountPath accounts r codec.chain curve u.sender
  let seed ← accounts.seed
  pure ⟨codec, curve, u, path, seed⟩

/-- The steps that need the key. -/
def perform (s : Signer) (p : Plan) : Traced SignedOutput := do
  let key ← s.keys.derive s.chains p.seed (.text p.codec.chain) p.path (.exactly p.curve)
  let (publicKey, signature) ←
    Traced.withKey key (signWith (s.keys.backend p.curve) p.unsigned.payload)
  let output ← p.codec.assemble p.unsigned signature publicKey
  .debug .signer ("Signed " ++ p.codec.chain ++ " transaction with " ++ p.curve.name ++
    " key at " ++ p.path.getD "None" ++ s!" ({p.unsigned.payload.message.length}-byte message)")
  p.codec.signedOutput output

theorem sign_eq (s : Signer) (accounts : AccountProvider) (request : RequestLike) :
    s.sign accounts request = s.plan accounts request >>= s.perform := by
  unfold sign plan perform
  simp only [bind_assoc, pure_bind]

/-! ## Planning -/

/-- The request that a value states. -/
def checked (v : Value) : Traced Request :=
  match Request.check v with
  | .valid r => pure r
  | .invalid issues => do
    .log .signer .error ("Invalid signing request: " ++ Failure.cause)
    Traced.fail (.invalidRequest issues)

theorem isQuiet_checked (v : Value) : (checked v).IsQuiet := by
  unfold checked
  split
  · exact Traced.isQuiet_pure _
  · exact (Traced.isQuiet_log _ _ _).bind fun _ => Traced.isQuiet_fail _

/-- A model has been checked already. -/
theorem validate_model (s : Signer) (r : Request) : s.validate (.model r) = pure r := rfl

theorem validate_object (s : Signer) (fields : Fields) :
    s.validate (.value (.object fields)) = (do
      let _ ← s.codecs.find ((fields.lookup "chain").getD .null)
      checked (.object fields)) := rfl

/-- A value that is no object has no chain to look up. -/
theorem validate_of_ne {v : Value} (s : Signer) (h : ∀ fields, v ≠ .object fields) :
    s.validate (.value v) = checked v := by
  cases v with
  | object fields => exact absurd rfl (h fields)
  | null | bool | int | float | text | bytes | list => rfl

theorem isQuiet_validate (s : Signer) (request : RequestLike) : (s.validate request).IsQuiet := by
  match request with
  | .model r => exact Traced.isQuiet_pure r
  | .value v =>
    by_cases hv : ∃ fields, v = .object fields
    · obtain ⟨fields, rfl⟩ := hv
      rw [validate_object]
      exact (Traced.isQuiet_liftM _).bind fun _ => isQuiet_checked _
    · rw [validate_of_ne s fun fields h => hv ⟨fields, h⟩]
      exact isQuiet_checked v

theorem isQuiet_prepareOne {α β γ : Type} {c : Codec} {raw : Option α} {transfer : Option β}
    {ofRaw : α → Traced γ} {ofTransfer : β → Traced γ} (hraw : ∀ r, (ofRaw r).IsQuiet)
    (htransfer : ∀ t, (ofTransfer t).IsQuiet) :
    (Codec.prepareOne c raw transfer ofRaw ofTransfer).IsQuiet := by
  unfold Codec.prepareOne
  split
  · exact (Traced.isQuiet_debug _ _).bind fun _ => hraw _
  · exact htransfer _
  · exact Traced.isQuiet_fail _

theorem isQuiet_prepare (n : Sui.Nesting) (c : Codec) (i : c.Input) :
    (c.prepare n i).IsQuiet := by
  cases c with
  | sui => exact isQuiet_prepareOne (Sui.isQuiet_prepareRaw n) (Sui.isQuiet_prepareTransfer n)
  | starknet =>
    exact isQuiet_prepareOne Starknet.isQuiet_prepareRaw Starknet.isQuiet_prepareTransfer
  | extension e =>
    exact isQuiet_prepareOne (fun _ => Traced.isQuiet_liftM _) fun _ => Traced.isQuiet_liftM _

theorem isQuiet_unsigned (n : Sui.Nesting) (c : Codec) (r : Request) :
    (unsigned n c r).IsQuiet := by
  refine (Traced.isQuiet_liftM _).bind fun i => (isQuiet_prepare n c i).bind fun u => ?_
  split
  · exact Traced.isQuiet_pure _
  · exact Traced.isQuiet_pure _

/-- Planning does nothing besides its result but write log records. -/
theorem isQuiet_plan (s : Signer) (accounts : AccountProvider) (request : RequestLike) :
    (s.plan accounts request).IsQuiet := by
  refine (isQuiet_validate s request).bind fun r => (Traced.isQuiet_liftM _).bind fun codec => ?_
  refine (Traced.isQuiet_liftM _).bind fun curve => ?_
  refine (isQuiet_unsigned s.nesting codec r).bind fun u => ?_
  refine (Traced.isQuiet_liftM _).bind fun path => (Traced.isQuiet_liftM _).bind fun seed => ?_
  exact Traced.isQuiet_pure _

/-- The request that is checked, the codec of its chain, and the chain's payload in it. -/
structure Carries (s : Signer) (request : RequestLike) (r : Request) (c : Codec) (i : c.Input) :
    Prop where
  valid : (s.validate request).result = .ok r
  found : s.codecs.find (.text r.chain) = .ok c
  input : c.inputOf (c.carried r) = .ok i

/-- An unsigned transaction with the sender that a request states. -/
def withStated {Body : Type} (u : Unsigned Body) (r : Request) : Unsigned Body :=
  { u with sender := (given? r.sender).or u.sender }

theorem result_unsigned (n : Sui.Nesting) (c : Codec) (r : Request) : (unsigned n c r).result =
    c.inputOf (c.carried r) >>= fun i => (c.prepare n i).result >>= fun u =>
      .ok (withStated u r) := by
  unfold unsigned
  simp only [Traced.result_bind, Traced.result_liftM]
  congr
  funext i
  congr
  funext u
  unfold withStated
  cases given? r.sender <;> rfl

theorem result_plan (s : Signer) (accounts : AccountProvider) (request : RequestLike) :
    (s.plan accounts request).result = (s.validate request).result >>= fun r =>
      s.codecs.find (.text r.chain) >>= fun c =>
      s.chains.curveFor (.text c.chain) (.ofName? r.curve) >>= fun curve =>
      (unsigned s.nesting c r).result >>= fun u =>
      accountPath accounts r c.chain curve u.sender >>= fun path =>
      accounts.seed >>= fun seed => .ok ⟨c, curve, u, path, seed⟩ := by
  unfold plan
  simp only [Traced.result_bind, Traced.result_liftM, Traced.result_pure]

/-- What a plan is made of. -/
theorem plan_eq_ok_iff {p : Plan} : (s.plan accounts request).result = .ok p ↔
    ∃ r i u, s.Carries request r p.codec i ∧
      s.chains.curveFor (.text p.codec.chain) (.ofName? r.curve) = .ok p.curve ∧
      (p.codec.prepare s.nesting i).result = .ok u ∧ p.unsigned = withStated u r ∧
      accountPath accounts r p.codec.chain p.curve p.unsigned.sender = .ok p.path ∧
      accounts.seed = .ok p.seed := by
  rw [result_plan]
  constructor
  · intro h
    obtain ⟨r, hvalid, h⟩ := bind_eq_ok_iff.1 h
    obtain ⟨c, hfound, h⟩ := bind_eq_ok_iff.1 h
    obtain ⟨curve, hcurve, h⟩ := bind_eq_ok_iff.1 h
    obtain ⟨stated, hstated, h⟩ := bind_eq_ok_iff.1 h
    obtain ⟨path, hpath, h⟩ := bind_eq_ok_iff.1 h
    obtain ⟨seed, hseed, h⟩ := bind_eq_ok_iff.1 h
    obtain rfl := Except.ok.inj h
    rw [result_unsigned] at hstated
    obtain ⟨i, hinput, hstated⟩ := bind_eq_ok_iff.1 hstated
    obtain ⟨u, hu, hstated⟩ := bind_eq_ok_iff.1 hstated
    exact ⟨r, i, u, ⟨hvalid, hfound, hinput⟩, hcurve, hu, (Except.ok.inj hstated).symm, hpath,
      hseed⟩
  · rintro ⟨r, i, u, ⟨hvalid, hfound, hinput⟩, hcurve, hu, hstated, hpath, hseed⟩
    refine bind_eq_ok_iff.2 ⟨r, hvalid, bind_eq_ok_iff.2 ⟨p.codec, hfound, ?_⟩⟩
    refine bind_eq_ok_iff.2 ⟨p.curve, hcurve, bind_eq_ok_iff.2 ⟨p.unsigned, ?_, ?_⟩⟩
    · rw [result_unsigned, hstated]
      exact bind_eq_ok_iff.2 ⟨i, hinput, bind_eq_ok_iff.2 ⟨u, hu, rfl⟩⟩
    · exact bind_eq_ok_iff.2 ⟨p.path, hpath, bind_eq_ok_iff.2 ⟨p.seed, hseed, rfl⟩⟩

/-! ## Bare hashes -/

theorem given?_some (text : String) :
    given? (some text) = if text.isEmpty then none else some text := by
  unfold given?
  rw [Option.filter_some]
  cases text.isEmpty <;> rfl

theorem given?_given? (text : Option String) : given? (given? text) = given? text := by
  unfold given?
  rw [Option.filter_filter]
  simp only [Bool.and_self]

end Signer

/-- The sender that is read while the output is assembled: that of a Starknet transaction whose
contract address is not known. -/
def Codec.lateSender? : (c : Codec) → Unsigned c.Body → Option String
  | starknet, u => if u.body.contractAddress.isEmpty then Signer.given? u.sender else none
  | sui, _ | extension _, _ => none

theorem Codec.lateSender?_starknet (u : Unsigned Starknet.Output) : lateSender? starknet u =
    if u.body.contractAddress.isEmpty then Signer.given? u.sender else none := rfl

namespace Signer

variable {s : Signer} {accounts : AccountProvider} {request : RequestLike}

/-- A request to sign a hash of which nothing else is known, for a sender on Starknet. -/
structure SignsHash (s : Signer) (request : RequestLike) (r : Request) (raw sender : String) :
    Prop where
  carries : s.Carries request r .starknet ⟨some raw, none⟩
  bare : ¬ Starknet.IsObjectText raw
  sender_eq : given? r.sender = some sender

/-- The contract address is known, unless a hash is signed as it is. -/
theorem bare_of_prepare {n : Sui.Nesting} {i : Starknet.Input} {u : Unsigned Starknet.Output}
    (hu : (Codec.starknet.prepare n i).result = .ok u) (haddress : u.body.contractAddress.isEmpty) :
    ∃ raw message, i = ⟨some raw, none⟩ ∧ ¬ Starknet.IsObjectText raw ∧
      Starknet.hashMessage (Text.trim Text.isBlank raw.toList) = .ok message ∧
      u = ⟨.ofMessage message, .blank, none⟩ := by
  have hknown : ∀ {tx : Starknet.Invoke} {maxFee sender : String} {nonce : Int},
      tx.unsigned maxFee nonce sender ≠ .ok u := by
    intro tx maxFee sender nonce h
    rw [Starknet.Invoke.address_of_unsigned h] at haddress
    cases haddress
  obtain ⟨raw, transfer⟩ := i
  cases raw with
  | none =>
    cases transfer with
    | none => cases hu
    | some t =>
      have hprepare : (Starknet.prepareTransfer t).result = .ok u := hu
      rw [Starknet.result_prepareTransfer] at hprepare
      obtain ⟨tx, -, hu⟩ := bind_eq_ok_iff.1 hprepare
      exact absurd hu hknown
  | some raw =>
    cases transfer with
    | some t => cases hu
    | none =>
      have hprepare : (Starknet.prepareRaw raw).result = .ok u := hu
      by_cases hraw : Starknet.IsObjectText raw
      · rw [Starknet.result_prepareRaw_object hraw] at hprepare
        obtain ⟨m, -, hprepare⟩ := bind_eq_ok_iff.1 hprepare
        obtain ⟨tx, -, hu⟩ := bind_eq_ok_iff.1 hprepare
        exact absurd hu hknown
      · rw [Starknet.result_prepareRaw_hash hraw] at hprepare
        obtain ⟨message, hmessage, hu⟩ := bind_eq_ok_iff.1 hprepare
        exact ⟨raw, message, rfl, hraw, hmessage, (Except.ok.inj hu).symm⟩

/-- A plan with a late sender is that of a bare hash. -/
theorem signsHash_of_lateSender? {p : Plan} {sender : String}
    (hp : (s.plan accounts request).result = .ok p)
    (hlate : p.codec.lateSender? p.unsigned = some sender) :
    ∃ r raw message, s.SignsHash request r raw sender ∧
      Starknet.hashMessage (Text.trim Text.isBlank raw.toList) = .ok message ∧
      s.chains.curveFor (.text "STARKNET") (.ofName? r.curve) = .ok p.curve ∧
      accountPath accounts r "STARKNET" p.curve (some sender) = .ok p.path ∧
      accounts.seed = .ok p.seed := by
  obtain ⟨c, curve, unsigned, path, seed⟩ := p
  obtain ⟨r, i, u, hcarries, hcurve, hu, hstated, hpath, hseed⟩ := plan_eq_ok_iff.1 hp
  cases c with
  | sui => cases hlate
  | extension e => cases hlate
  | starknet =>
    dsimp only at i u hcarries hcurve hu hstated hpath hlate
    subst hstated
    rw [Codec.lateSender?_starknet] at hlate
    split at hlate
    · rename_i haddress
      obtain ⟨raw, message, rfl, hbare, hmessage, rfl⟩ := bare_of_prepare hu haddress
      have hstated : (given? r.sender).or none = given? r.sender := Option.or_none
      unfold withStated at hlate hpath
      dsimp only at hlate hpath
      rw [hstated, given?_given?] at hlate
      rw [hstated, hlate] at hpath
      exact ⟨r, raw, message, ⟨hcarries, hbare, hlate⟩, hmessage, hcurve, hpath, hseed⟩
    · cases hlate

end Signer

end Signatory
