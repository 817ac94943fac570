import Signatory.Proofs.Keys.Grinding
import Signatory.Proofs.Signer.Perform

/-!
# No key is touched for a request that is wrong

`IsBuiltIn.key_untouched`: whenever signing ends in a refusal of the request itself, it has done
nothing besides its result but write log records. There is one exception, `ReadsSenderLate`: the
sender of a bare hash is read only after the key was derived and has signed.
-/

namespace Signatory

open Outcome

/-- The refusals that concern a request rather than a key. -/
def Failure.IsOfRequest (f : Failure) : Prop :=
  f.code? = some .unsupportedChain ∨ f.code? = some .malformedIntent ∨
    f.code? = some .numericOverflow

theorem Failure.IsOfRequest.not_isKeyFailure {f : Failure} (h : f.IsOfRequest) :
    ¬ f.IsKeyFailure := by
  rintro (hkey | hkey)
  · rcases h with h | h | h <;> cases h.symm.trans hkey
  · rcases h with h | h | h <;> cases h.symm.trans hkey

/-- The code of a failure that an operation ends in. -/
def Outcome.code? {α : Type} : Except Failure α → Option ErrorCode
  | .ok _ => none
  | .error f => f.code?

theorem Outcome.exists_of_code? {α : Type} {x : Except Failure α} {code : ErrorCode}
    (h : code? x = some code) : ∃ f, x = .error f ∧ f.code? = some code := by
  cases x with
  | ok a => cases h
  | error f => exact ⟨f, rfl, h⟩

namespace Signer

variable {s : Signer} {accounts : AccountProvider} {request : RequestLike}

/-- A bare hash is signed for a sender that is no number, and the request is right otherwise. -/
def ReadsSenderLate (s : Signer) (accounts : AccountProvider) (request : RequestLike) : Prop :=
  ∃ r raw sender message curve path seed f, s.SignsHash request r raw sender ∧
    Starknet.hashMessage (Text.trim Text.isBlank raw.toList) = .ok message ∧
    s.chains.curveFor (.text "STARKNET") (.ofName? r.curve) = .ok curve ∧
    accountPath accounts r "STARKNET" curve (some sender) = .ok path ∧
    accounts.seed = .ok seed ∧ Starknet.Felt.parse "sender" sender = .error f

/-- Such a request has a plan. -/
theorem exists_plan (h : s.ReadsSenderLate accounts request) :
    ∃ p, (s.plan accounts request).result = .ok p := by
  obtain ⟨r, raw, sender, message, curve, path, seed, f, hhash, hmessage, hcurve, hpath, hseed,
    -⟩ := h
  have hprepare : (Codec.starknet.prepare s.nesting ⟨some raw, none⟩).result =
      .ok ⟨.ofMessage message, .blank, none⟩ :=
    (Starknet.result_prepareRaw_hash hhash.bare).trans (bind_of_eq_ok hmessage _)
  have hsender : (withStated (⟨.ofMessage message, .blank, none⟩ : Unsigned Starknet.Output)
      r).sender = some sender := by
    unfold withStated
    dsimp only
    rw [hhash.sender_eq]
    rfl
  refine ⟨⟨.starknet, curve, withStated ⟨.ofMessage message, .blank, none⟩ r, path, seed⟩, ?_⟩
  refine plan_eq_ok_iff.2 ⟨r, _, _, hhash.carries, hcurve, hprepare, rfl, ?_, hseed⟩
  dsimp only
  rw [hsender]
  exact hpath

theorem isQuiet_sign {f : Failure} (h : (s.plan accounts request).result = .error f) :
    (s.sign accounts request).IsQuiet := by
  unfold Traced.IsQuiet
  rw [sign_eq, Traced.events_bind, h, List.append_nil]
  exact isQuiet_plan s accounts request

theorem derivation_mem_sign {p : Plan} (h : (s.plan accounts request).result = .ok p) :
    Event.derivation ∈ (s.sign accounts request).events := by
  rw [sign_eq, Traced.events_bind, h]
  exact List.mem_append_right _ (derivation_mem_perform s p)

/-- A refusal of the request with the key derived is that of a sender that is read late. -/
theorem IsBuiltIn.readsSenderLate {p : Plan} {f : Failure} (hs : s.IsBuiltIn)
    (hp : (s.plan accounts request).result = .ok p)
    (hf : (s.sign accounts request).result = .error f) (hrequest : f.IsOfRequest) :
    s.ReadsSenderLate accounts request := by
  obtain ⟨r, i, u, hcarries, -⟩ := plan_eq_ok_iff.1 hp
  rw [sign_eq, Traced.result_bind, bind_of_eq_ok hp] at hf
  rcases hs.failsIn_perform (hs.isBuiltIn_of_find hcarries.found) f hf with hkey | hsender
  · exact absurd hkey hrequest.not_isKeyFailure
  · obtain ⟨sender, hlate, hparse⟩ := hsender
    obtain ⟨r, raw, message, hhash, hmessage, hcurve, hpath, hseed⟩ :=
      signsHash_of_lateSender? hp hlate
    exact ⟨r, raw, sender, message, p.curve, p.path, p.seed, f, hhash, hmessage, hcurve, hpath,
      hseed, hparse⟩

/-- A request that is refused touches no key, unless its sender is read late; then the key is
derived. -/
theorem IsBuiltIn.key_untouched (hs : s.IsBuiltIn) (accounts : AccountProvider)
    (request : RequestLike) {f : Failure} (hf : (s.sign accounts request).result = .error f)
    (hrequest : f.IsOfRequest) :
    (¬ s.ReadsSenderLate accounts request → (s.sign accounts request).IsQuiet) ∧
      (s.ReadsSenderLate accounts request →
        Event.derivation ∈ (s.sign accounts request).events) := by
  constructor
  · intro hlate
    cases hplan : (s.plan accounts request).result with
    | error g => exact isQuiet_sign hplan
    | ok p => exact absurd (hs.readsSenderLate hplan hf hrequest) hlate
  · intro hlate
    obtain ⟨p, hp⟩ := exists_plan hlate
    exact derivation_mem_sign hp

/-- Accounts without registrations, for a seed of one byte. -/
def someProvider : AccountProvider := Accounts.provider ⟨[1], true, []⟩ .standard

/-- A transfer of an amount that is no field element. -/
def vastTransfer : Starknet.Transfer where
  sender := "0x1"
  nonce := 1
  recipient := "2"
  amount := "0x800000000000011000000000000000000000000000000000000000000000001"
  maxFee := "0x3"
  chainId := "SN_MAIN"

/-- A request for the transfer. -/
def vastRequest : RequestLike :=
  .model ⟨"Starknet", none, some ⟨none, some vastTransfer⟩, none, none, none, []⟩

theorem key_untouched_vastRequest : ∃ f, standard.IsBuiltIn ∧
    (standard.sign someProvider vastRequest).result = .error f ∧ f.IsOfRequest ∧
    (¬ standard.ReadsSenderLate someProvider vastRequest →
      (standard.sign someProvider vastRequest).IsQuiet) ∧
    (standard.ReadsSenderLate someProvider vastRequest →
      Event.derivation ∈ (standard.sign someProvider vastRequest).events) := by
  have hoverflow : code? (standard.sign someProvider vastRequest).result =
      some .numericOverflow := by
    decide +kernel
  obtain ⟨f, hf, hcode⟩ := exists_of_code? hoverflow
  exact ⟨f, isBuiltIn_standard, hf, .inr (.inr hcode),
    isBuiltIn_standard.key_untouched _ vastRequest hf (.inr (.inr hcode))⟩

/-- Schemes that take little computing: each key is one, and a signature is the message. -/
def lightSchemes : Schemes :=
  { Schemes.standard with
    derive := fun _ _ _ => some [1]
    stark := ⟨fun key => key, fun message key => some (message, key), fun _ _ _ _ => true⟩ }

/-- A signer over the schemes. -/
def lightSigner : Signer := ⟨.ofSchemes lightSchemes, .standard, .standard, .standard⟩

/-- The secret that the key is ground into on the STARK curve: the first digest is accepted. -/
def lightSecret : Bytes :=
  Bytes.beBytes 32 (Int.fmod (Grind.digestAt Grind.sha256 [1] 0) Weierstrass.stark.order).toNat

theorem grindSecret_of_key {material : Bytes} {path : String} {k : Int}
    (h : Grind.key Grind.sha256 material Weierstrass.stark.order = .ok k) (hk : k ≠ 0) :
    Primitives.grindSecret material path = .ok (Bytes.beBytes 32 k.toNat) := by
  unfold Primitives.grindSecret
  rw [bind_of_eq_ok h, if_neg hk]
  rfl

theorem deriveSecret_lightSchemes :
    (lightSchemes.primitives .stark).deriveSecret = fun _ _ => .ok lightSecret := by
  funext seed path
  have hkey : Grind.key Grind.sha256 [1] Weierstrass.stark.order =
      .ok (Int.fmod (Grind.digestAt Grind.sha256 [1] 0) Weierstrass.stark.order) :=
    Grind.key_of_isFirst (by decide)
      ⟨by decide +kernel, fun j hj => absurd hj (Nat.not_lt_zero j)⟩
  exact grindSecret_of_key hkey (by decide +kernel)

/-- The backends of the schemes, with the secret in place of grinding. -/
def groundBackend (c : Curve) : Backend :=
  if c = .stark then
    ⟨.stark, { lightSchemes.primitives .stark with deriveSecret := fun _ _ => .ok lightSecret }⟩
  else lightSchemes.backend c

theorem backend_lightSchemes : lightSchemes.backend = groundBackend := by
  funext c
  unfold groundBackend
  split
  · rename_i hc
    rw [hc, ← deriveSecret_lightSchemes]
    rfl
  · rfl

/-- The signer over these backends, which can be run. -/
def groundSigner : Signer :=
  ⟨⟨groundBackend, KeyService.seedFingerprint⟩, .standard, .standard, .standard⟩

theorem lightSigner_eq : lightSigner = groundSigner := by
  unfold lightSigner KeyService.ofSchemes groundSigner
  rw [backend_lightSchemes]

/-- A request to sign a bare hash for a sender that is no number. -/
def lateRequest : RequestLike :=
  .model ⟨"STARKNET", none, some ⟨some "0x1", none⟩, some "zz", none, some "m", []⟩

/-- The request is refused as malformed after the key was derived. -/
theorem derivation_of_lateRequest : lightSigner.IsBuiltIn ∧
    (∃ f, (lightSigner.sign someProvider lateRequest).result = .error f ∧
      f.code? = some .malformedIntent) ∧
    Event.derivation ∈ (lightSigner.sign someProvider lateRequest).events := by
  obtain ⟨p, hp⟩ : ∃ p, (lightSigner.plan someProvider lateRequest).result = .ok p :=
    exists_of_isOk (by decide +kernel)
  refine ⟨⟨⟨lightSchemes, rfl⟩, .standard, rfl⟩, ?_, derivation_mem_sign hp⟩
  rw [lightSigner_eq]
  exact exists_of_code? (by decide +kernel)

end Signer

end Signatory
