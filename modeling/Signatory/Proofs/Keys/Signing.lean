import Signatory.Proofs.ChainTable
import Signatory.Proofs.Keys.Caching

/-!
# Keys that have signed

1. `Backend.sign_eq_ok_iff` and `Backend.publicKey_eq_ok_iff`: when a backend signs and when it
   gives a public key, in terms of its primitives; `sign_secp256k1_iff`, `sign_p256_iff` and
   `sign_stark_iff` for these.
2. `IsRegular`: a key service signs on the curve that it is asked for, in 64 bytes. That of this
   library's own schemes does (`isRegular_standard`).
3. `derivedPublicKey_of_derive`: the public key of a handle that was opened for an account is the
   one that is derived for the account.
-/

namespace Signatory

open Outcome

/-! ## Handles and payloads -/

theorem KeyHandle.material_eq_ok_iff {k : KeyHandle} {secret : Bytes} :
    k.material = .ok secret ↔ k.released = false ∧ k.buffer = secret := by
  unfold material
  cases k.released with
  | true => exact iff_of_false (fun h => by cases h) fun h => by cases h.1
  | false => simp

theorem Payload.consume_eq_ok_iff {payload : Payload} {message : Bytes} :
    payload.consume.1 = .ok message ↔ payload.consumed = false ∧ payload.message = message := by
  unfold consume
  cases payload.consumed with
  | true => exact iff_of_false (fun h => by cases h) fun h => by cases h.1
  | false => simp

/-! ## Backends -/

namespace Backend

variable {b : Backend}

theorem run_eq_ok_iff {α : Type} {use : PrimitiveUse} {wrapped : Failure} {r : Except Failure α}
    {a : α} : (b.run use wrapped r).result = .ok a ↔ r = .ok a := by
  cases r with
  | ok a' => exact Iff.rfl
  | error f => exact iff_of_false (fun h => by cases h) fun h => by cases h

theorem checkHandle_eq_ok_iff {key : Option KeyHandle} {k : KeyHandle} :
    b.checkHandle key = .ok k ↔ key = some k ∧ k.curve = b.curve := by
  cases key with
  | none => exact iff_of_false (fun h => by cases h) fun h => by cases h.1
  | some k' =>
    refine ite_eq_ok_iff.trans ⟨?_, ?_⟩
    · rintro ⟨hcurve, rfl⟩
      exact ⟨rfl, hcurve⟩
    · rintro ⟨hkey, hcurve⟩
      cases hkey
      exact ⟨hcurve, rfl⟩

/-- A public key is what the primitive gives for the secret of a handle that is not released. -/
theorem publicKey_eq_ok_iff {k : KeyHandle} {publicKey : Bytes} :
    (b.publicKey k).result = .ok publicKey ↔
      k.curve = b.curve ∧ k.released = false ∧ b.primitives.publicKey k.buffer = .ok publicKey := by
  unfold Backend.publicKey
  simp only [Traced.result_bind, Traced.result_liftM]
  constructor
  · intro h
    obtain ⟨k', hk, h⟩ := bind_eq_ok_iff.1 h
    obtain ⟨secret, hsecret, h⟩ := bind_eq_ok_iff.1 h
    obtain ⟨hkey, hcurve⟩ := checkHandle_eq_ok_iff.1 hk
    obtain rfl := Option.some.inj hkey
    obtain ⟨hreleased, rfl⟩ := KeyHandle.material_eq_ok_iff.1 hsecret
    exact ⟨hcurve, hreleased, run_eq_ok_iff.1 h⟩
  · rintro ⟨hcurve, hreleased, h⟩
    refine bind_eq_ok_iff.2 ⟨k, checkHandle_eq_ok_iff.2 ⟨rfl, hcurve⟩, ?_⟩
    refine bind_eq_ok_iff.2 ⟨k.buffer, KeyHandle.material_eq_ok_iff.2 ⟨hreleased, rfl⟩, ?_⟩
    exact run_eq_ok_iff.2 h

theorem result_sign (payload : Payload) (key : Option KeyHandle) :
    (b.sign payload key).1.result = b.checkHandle key >>= fun k =>
      payload.consume.1 >>= fun message => (b.signMessage message k).result := by
  unfold sign
  cases b.checkHandle key with
  | error f => rfl
  | ok k =>
    dsimp only
    rcases payload.consume with ⟨f | message, payload'⟩ <;> rfl

theorem signMessage_eq_ok_iff {message : Bytes} {k : KeyHandle} {signature : Signature} :
    (b.signMessage message k).result = .ok signature ↔ k.released = false ∧
      b.primitives.sign message k.buffer = .ok signature.value ∧ signature.curve = b.curve := by
  unfold signMessage
  simp only [Traced.result_bind, Traced.result_liftM]
  constructor
  · intro h
    obtain ⟨secret, hsecret, hsteps⟩ := bind_eq_ok_iff.1 h
    obtain ⟨value, hvalue, hsignature⟩ := bind_eq_ok_iff.1 hsteps
    obtain ⟨hreleased, rfl⟩ := KeyHandle.material_eq_ok_iff.1 hsecret
    obtain rfl := Except.ok.inj hsignature
    exact ⟨hreleased, run_eq_ok_iff.1 hvalue, rfl⟩
  · rintro ⟨hreleased, hvalue, hcurve⟩
    refine bind_eq_ok_iff.2 ⟨k.buffer, KeyHandle.material_eq_ok_iff.2 ⟨hreleased, rfl⟩, ?_⟩
    refine bind_eq_ok_iff.2 ⟨signature.value, run_eq_ok_iff.2 hvalue, ?_⟩
    rw [← hcurve]
    rfl

/-- A signature is what the primitive gives for the message of a fresh payload and the secret of a
handle that is not released, on the curve of the backend. -/
theorem sign_eq_ok_iff {payload : Payload} {k : KeyHandle} {signature : Signature} :
    (b.sign payload (some k)).1.result = .ok signature ↔
      (k.curve = b.curve ∧ k.released = false ∧ payload.consumed = false) ∧
      b.primitives.sign payload.message k.buffer = .ok signature.value ∧
      signature.curve = b.curve := by
  rw [result_sign]
  constructor
  · intro h
    obtain ⟨k', hk, h⟩ := bind_eq_ok_iff.1 h
    obtain ⟨message, hmessage, h⟩ := bind_eq_ok_iff.1 h
    obtain ⟨hkey, hcurve⟩ := checkHandle_eq_ok_iff.1 hk
    obtain rfl := Option.some.inj hkey
    obtain ⟨hfresh, rfl⟩ := Payload.consume_eq_ok_iff.1 hmessage
    obtain ⟨hreleased, hsign⟩ := signMessage_eq_ok_iff.1 h
    exact ⟨⟨hcurve, hreleased, hfresh⟩, hsign⟩
  · rintro ⟨⟨hcurve, hreleased, hfresh⟩, hsign⟩
    refine bind_eq_ok_iff.2 ⟨k, checkHandle_eq_ok_iff.2 ⟨rfl, hcurve⟩, ?_⟩
    refine bind_eq_ok_iff.2 ⟨payload.message, Payload.consume_eq_ok_iff.2 ⟨hfresh, rfl⟩, ?_⟩
    exact signMessage_eq_ok_iff.2 ⟨hreleased, hsign⟩

/-- No signature is made without a handle. -/
theorem exists_key_of_sign {payload : Payload} {key : Option KeyHandle} {signature : Signature}
    (h : (b.sign payload key).1.result = .ok signature) : ∃ k, key = some k := by
  rw [result_sign] at h
  obtain ⟨k, hk, -⟩ := bind_eq_ok_iff.1 h
  exact ⟨k, (checkHandle_eq_ok_iff.1 hk).1⟩

/-- A signature is what the primitive gives, on the curve of the backend. -/
theorem sign_eq_ok {payload : Payload} {key : Option KeyHandle} {signature : Signature}
    (h : (b.sign payload key).1.result = .ok signature) :
    signature.curve = b.curve ∧
      ∃ message secret, b.primitives.sign message secret = .ok signature.value := by
  obtain ⟨k, rfl⟩ := exists_key_of_sign h
  obtain ⟨-, hsign, hcurve⟩ := sign_eq_ok_iff.1 h
  exact ⟨hcurve, _, _, hsign⟩

end Backend

/-! ## Primitives -/

namespace Primitives

theorem answer_eq_ok_iff {α : Type} {x : Option α} {a : α} : answer x = .ok a ↔ x = some a := by
  cases x with
  | none => exact iff_of_false (fun h => by cases h) fun h => by cases h
  | some a' =>
    show Except.ok a' = Except.ok a ↔ some a' = some a
    rw [Except.ok.injEq, Option.some.injEq]

theorem checkSecp256k1_eq_ok_iff {secret : Bytes} : checkSecp256k1 secret = .ok () ↔
    0 < Bytes.beNat secret ∧ Bytes.beNat secret < Weierstrass.secp256k1.order :=
  ite_eq_ok_iff.trans (and_iff_left rfl)

theorem starkScalar_eq_ok_iff {secret : Bytes} {n : Nat} : starkScalar secret = .ok n ↔
    (0 < Bytes.beNat secret ∧ Bytes.beNat secret < Weierstrass.stark.order) ∧
      Bytes.beNat secret = n :=
  ite_eq_ok_iff

section Signing

variable {s : Schemes} {message secret signature : Bytes}

theorem sign_secp256k1_iff : (secp256k1 s).sign message secret = .ok signature ↔
    (0 < Bytes.beNat secret ∧ Bytes.beNat secret < Weierstrass.secp256k1.order) ∧
      ∃ r t, s.secp256k1.sign (Sha256.digest message) secret = some (r, t) ∧
        joinSignature r t = signature := by
  rw [← checkSecp256k1_eq_ok_iff]
  constructor
  · intro h
    obtain ⟨⟨⟩, hcheck, h⟩ := bind_eq_ok_iff.1 h
    obtain ⟨⟨r, t⟩, hsign, h⟩ := bind_eq_ok_iff.1 h
    exact ⟨hcheck, r, t, answer_eq_ok_iff.1 hsign, Except.ok.inj h⟩
  · rintro ⟨hcheck, r, t, hsign, rfl⟩
    refine bind_eq_ok_iff.2 ⟨(), hcheck, ?_⟩
    exact bind_eq_ok_iff.2 ⟨(r, t), answer_eq_ok_iff.2 hsign, rfl⟩

theorem sign_p256_iff : (p256 s).sign message secret = .ok signature ↔
    ∃ r t, s.p256.sign (Sha256.digest message) (Bytes.beNat secret) = some (r, t) ∧
      joinSignature r (Ecdsa.lowHalf Weierstrass.p256.order t) = signature := by
  constructor
  · intro h
    obtain ⟨⟨r, t⟩, hsign, h⟩ := bind_eq_ok_iff.1 h
    exact ⟨r, t, answer_eq_ok_iff.1 hsign, Except.ok.inj h⟩
  · rintro ⟨r, t, hsign, rfl⟩
    exact bind_eq_ok_iff.2 ⟨(r, t), answer_eq_ok_iff.2 hsign, rfl⟩

theorem sign_stark_iff : (stark s).sign message secret = .ok signature ↔
    ∃ z n r t, starkMessage message = .ok z ∧ starkScalar secret = .ok n ∧
      s.stark.sign z n = some (r, t) ∧ joinSignature r t = signature := by
  constructor
  · intro h
    obtain ⟨z, hz, h⟩ := bind_eq_ok_iff.1 h
    obtain ⟨n, hn, h⟩ := bind_eq_ok_iff.1 h
    obtain ⟨⟨r, t⟩, hsign, h⟩ := bind_eq_ok_iff.1 h
    exact ⟨z, n, r, t, hz, hn, answer_eq_ok_iff.1 hsign, Except.ok.inj h⟩
  · rintro ⟨z, n, r, t, hz, hn, hsign, rfl⟩
    refine bind_eq_ok_iff.2 ⟨z, hz, bind_eq_ok_iff.2 ⟨n, hn, ?_⟩⟩
    exact bind_eq_ok_iff.2 ⟨(r, t), answer_eq_ok_iff.2 hsign, rfl⟩

end Signing

end Primitives

/-! ## Signatures of 64 bytes -/

theorem Ed25519.length_sign (secret message : Bytes) : (sign secret message).length = 64 := by
  simp [sign, encode]

/-- Every signature has 64 bytes. -/
def Primitives.SignsShort (p : Primitives) : Prop :=
  ∀ message secret value, p.sign message secret = .ok value → value.length = 64

namespace Primitives

theorem length_joinSignature (r s : Nat) : (joinSignature r s).length = 64 := by
  simp [joinSignature]

theorem signsShort_secp256k1 (s : Schemes) : (secp256k1 s).SignsShort := by
  intro message secret value h
  obtain ⟨-, r, t, -, rfl⟩ := sign_secp256k1_iff.1 h
  exact length_joinSignature r t

theorem signsShort_p256 (s : Schemes) : (p256 s).SignsShort := by
  intro message secret value h
  obtain ⟨r, t, -, rfl⟩ := sign_p256_iff.1 h
  exact length_joinSignature r _

theorem signsShort_stark (s : Schemes) : (stark s).SignsShort := by
  intro message secret value h
  obtain ⟨-, -, r, t, -, -, -, rfl⟩ := sign_stark_iff.1 h
  exact length_joinSignature r t

theorem signsShort_ed25519 {s : Schemes} (h : ∀ message secret value,
    s.ed25519.sign message secret = some value → value.length = 64) : (ed25519 s).SignsShort := by
  intro message secret value hvalue
  exact h message secret value (answer_eq_ok_iff.1 hvalue)

end Primitives

/-- Pairs of numbers are written in 64 bytes, so only Ed25519 depends on its scheme. -/
theorem Schemes.signsShort {s : Schemes} {c : Curve}
    (h : c = .ed25519 → ∀ message secret value,
      s.ed25519.sign message secret = some value → value.length = 64) :
    (s.backend c).primitives.SignsShort := by
  cases c with
  | ed25519 => exact Primitives.signsShort_ed25519 (h rfl)
  | secp256k1 => exact Primitives.signsShort_secp256k1 s
  | p256 => exact Primitives.signsShort_p256 s
  | stark => exact Primitives.signsShort_stark s

namespace KeyService

/-- Each backend works on its own curve, and its signatures have 64 bytes. -/
structure IsRegular (s : KeyService) : Prop where
  curve_eq : ∀ c, (s.backend c).curve = c
  short : ∀ c, (s.backend c).primitives.SignsShort

theorem isRegular_ofSchemes {schemes : Schemes} (h : ∀ message secret value,
    schemes.ed25519.sign message secret = some value → value.length = 64) :
    (ofSchemes schemes).IsRegular :=
  ⟨fun _ => rfl, fun _ => Schemes.signsShort fun _ => h⟩

theorem isRegular_standard : standard.IsRegular := by
  refine isRegular_ofSchemes fun message secret value h => ?_
  have hstandard : Schemes.standardEdwards.sign message secret = some value := h
  unfold Schemes.standardEdwards at hstandard
  dsimp only at hstandard
  split at hstandard
  · rw [← Option.some.inj hstandard, Ed25519.length_sign]
  · cases hstandard

/-! ## Handles of accounts -/

variable {s : KeyService} {t : ChainTable}

/-- A chain is located on the curve that is used for it. -/
theorem curveFor_of_locate {chain : Value} {path : Option String} {choice : CurveChoice}
    {x : Curve × String} (h : locate t chain path choice = .ok x) :
    t.curveFor chain choice = .ok x.1 := by
  obtain ⟨curve, hcurve, h⟩ := bind_eq_ok_iff.1 h
  split at h
  · rw [hcurve, ← Except.ok.inj h]
  · obtain ⟨path, -, h⟩ := bind_eq_ok_iff.1 h
    rw [hcurve, ← Except.ok.inj h]

theorem result_derive (s : KeyService) (t : ChainTable) (seed : Bytes) (chain : Value)
    (path : Option String) (choice : CurveChoice) :
    (s.derive t seed chain path choice).result = locate t chain path choice >>= fun x =>
      Tag.ofValue chain >>= fun _ => ((s.backend x.1).deriveKey seed x.2).result := by
  unfold derive
  simp only [Traced.result_bind, Traced.result_liftM]
  rfl

theorem derivedPublicKey_of_derive {seed : Bytes} {chain : Value} {path : Option String}
    {curve : Curve} {key : KeyHandle} {publicKey : Bytes}
    (hderive : (s.derive t seed chain path (.exactly curve)).result = .ok key)
    (hkey : ((s.backend curve).publicKey key).result = .ok publicKey) :
    s.derivedPublicKey t seed chain path (.exactly curve) = .ok publicKey := by
  rw [result_derive] at hderive
  obtain ⟨x, hx, hderive⟩ := bind_eq_ok_iff.1 hderive
  obtain ⟨tag, -, hderive⟩ := bind_eq_ok_iff.1 hderive
  have hcurve := ChainTable.eq_of_curveFor_exactly (curveFor_of_locate hx)
  rw [derivedPublicKey_eq_locate]
  exact bind_eq_ok_iff.2 ⟨x, hx, bind_eq_ok_iff.2 ⟨key, hderive, hcurve ▸ hkey⟩⟩

end KeyService

end Signatory
