import Signatory.Proofs.Keys.Lifetime
import Signatory.Proofs.Keys.Signing

/-!
# Importing keys

A secret that is imported is tried by asking for its public key. That its value is a scalar of the
curve is checked on every curve, by the backend or by the implementation below it. That it has 32
bytes is checked only where the implementation takes bytes: on P-256 and on the STARK curve, it is
given the value as a number.

1. `Schemes.publicKey_iff`: which secrets have a public key.
2. `Schemes.keyFromSecret_accepts`: these are imported, and any other is refused as a failure of
   derivation, the handle of the trial erased. That is the same on all curves exactly for secrets
   that are not accepted with another length than 32.
-/

namespace Signatory

open Outcome

/-! ## Secrets of a curve -/

namespace Curve

/-- The value of a secret is a scalar of the curve. For Ed25519, which digests the secret, any
value is. -/
def HoldsScalar (secret : Bytes) : Curve → Prop
  | ed25519 => True
  | secp256k1 => 0 < Bytes.beNat secret ∧ Bytes.beNat secret < Weierstrass.secp256k1.order
  | p256 => 0 < Bytes.beNat secret ∧ Bytes.beNat secret < Weierstrass.p256.order
  | stark => 0 < Bytes.beNat secret ∧ Bytes.beNat secret < Weierstrass.stark.order

/-- The secrets of a curve: 32 bytes that hold a scalar. -/
def IsSecret (c : Curve) (secret : Bytes) : Prop :=
  secret.length = 32 ∧ c.HoldsScalar secret

/-- The implementation of the curve takes secrets as bytes, and is told their length that way. -/
def TakesBytes : Curve → Prop
  | ed25519 | secp256k1 => True
  | p256 | stark => False

end Curve

/-- What implementations refuse: other lengths than 32 where they are given bytes, and for P-256
numbers that are no scalars. -/
structure Schemes.ChecksSecrets (s : Schemes) : Prop where
  ed25519 : ∀ secret, (∃ key, s.ed25519.publicKey secret = some key) ↔ secret.length = 32
  secp256k1 : ∀ secret, Curve.secp256k1.HoldsScalar secret →
    ((∃ key, s.secp256k1.publicKey secret = some key) ↔ secret.length = 32)
  p256 : ∀ n, (∃ key, s.p256.publicKey n = some key) ↔ 0 < n ∧ n < Weierstrass.p256.order

theorem Schemes.checksSecrets_standard : standard.ChecksSecrets := by
  refine ⟨fun secret => ?_, fun secret hscalar => ?_, fun n => ?_⟩
  · simp [standard, standardEdwards]
  · have hscalar : 0 < Bytes.beNat secret ∧ Bytes.beNat secret < Weierstrass.secp256k1.order :=
      hscalar
    simp [standard, standardSecp256k1, ecdsa, scalar?, hscalar]
  · simp [standard, standardP256, ecdsa, scalar?]

/-! ## Public keys -/

namespace Schemes

variable {s : Schemes} {c : Curve} {secret : Bytes}

/-- A secret has a public key exactly if it holds a scalar, and has 32 bytes where the
implementation is given bytes. -/
theorem publicKey_iff (hs : s.ChecksSecrets) (c : Curve) (secret : Bytes) :
    (∃ publicKey, (s.primitives c).publicKey secret = .ok publicKey) ↔
      c.HoldsScalar secret ∧ (c.TakesBytes → secret.length = 32) := by
  cases c with
  | ed25519 =>
    have hanswer : ∀ key, (s.primitives .ed25519).publicKey secret = .ok key ↔
        s.ed25519.publicKey secret = some key := fun _ => Primitives.answer_eq_ok_iff
    simp only [hanswer, hs.ed25519, Curve.HoldsScalar, Curve.TakesBytes, true_and, true_imp_iff]
  | secp256k1 =>
    constructor
    · rintro ⟨key, h⟩
      obtain ⟨⟨⟩, hcheck, hkey⟩ := bind_eq_ok_iff.1 h
      have hscalar := Primitives.checkSecp256k1_eq_ok_iff.1 hcheck
      exact ⟨hscalar, fun _ => (hs.secp256k1 secret hscalar).1
        ⟨key, Primitives.answer_eq_ok_iff.1 hkey⟩⟩
    · rintro ⟨hscalar, hlength⟩
      obtain ⟨key, hkey⟩ := (hs.secp256k1 secret hscalar).2 (hlength trivial)
      exact ⟨key, bind_eq_ok_iff.2 ⟨(), Primitives.checkSecp256k1_eq_ok_iff.2 hscalar,
        Primitives.answer_eq_ok_iff.2 hkey⟩⟩
  | p256 =>
    have hanswer : ∀ key, (s.primitives .p256).publicKey secret = .ok key ↔
        s.p256.publicKey (Bytes.beNat secret) = some key := fun _ => Primitives.answer_eq_ok_iff
    simp only [hanswer, hs.p256, Curve.HoldsScalar, Curve.TakesBytes, false_imp_iff, and_true]
  | stark =>
    constructor
    · rintro ⟨key, h⟩
      obtain ⟨n, hn, -⟩ := bind_eq_ok_iff.1 h
      exact ⟨(Primitives.starkScalar_eq_ok_iff.1 hn).1, False.elim⟩
    · rintro ⟨hscalar, -⟩
      exact ⟨_, bind_eq_ok_iff.2 ⟨_, Primitives.starkScalar_eq_ok_iff.2 ⟨hscalar, rfl⟩, rfl⟩⟩

/-- A secret without a public key is refused by the implementation, or by the range check of the
backend. -/
theorem failsIn_publicKey (s : Schemes) (c : Curve) (secret : Bytes) :
    FailsIn (fun f => f = .noAnswer ∨ f = .secretOutOfRange c)
      ((s.primitives c).publicKey secret) := by
  have hanswer : ∀ (x : Option Bytes) {c : Curve},
      FailsIn (fun f => f = .noAnswer ∨ f = .secretOutOfRange c) (Primitives.answer x) :=
    fun x _ => (Primitives.failsIn_answer x).imp fun _ => .inl
  cases c with
  | ed25519 => exact hanswer _
  | p256 => exact hanswer _
  | secp256k1 =>
    refine FailsIn.bind ?_ fun _ _ => hanswer _
    exact (Primitives.failsIn_checkSecp256k1 secret).imp fun _ => .inr
  | stark =>
    refine FailsIn.bind ?_ fun _ _ => failsIn_ok _
    exact (Primitives.failsIn_starkScalar secret).imp fun _ => .inr

end Schemes

/-! ## Handles of secrets -/

/-- The public key of a fresh handle on the backend's own curve is what the primitive gives for its
secret. -/
theorem Backend.result_publicKey_make (b : Backend) (path : String) (secret : Bytes) :
    (b.publicKey (.make b.curve path secret)).result =
      (b.run .publicKey (.invalidKey b.curve) (b.primitives.publicKey secret)).result := by
  have hcheck : b.checkHandle (some (.make b.curve path secret)) =
      .ok (.make b.curve path secret) := if_pos rfl
  have hmaterial : (KeyHandle.make b.curve path secret).material = .ok secret := rfl
  unfold publicKey
  rw [hcheck, Traced.liftM_ok_bind, hmaterial, Traced.liftM_ok_bind]

/-- A secret with a public key is imported, and its handle stays open. -/
theorem Backend.keyFromSecret_of_ok {b : Backend} {secret publicKey : Bytes}
    (h : (b.publicKey (.make b.curve "" secret)).result = .ok publicKey) :
    (b.keyFromSecret secret).result = .ok (.make b.curve "" secret) ∧
      (b.keyFromSecret secret).handles = [.make b.curve "" secret] := by
  unfold keyFromSecret
  dsimp only
  split
  · exact ⟨rfl, leavesHandles_publicKey b _ [.make b.curve "" secret]⟩
  · rename_i hf
    cases hf.symm.trans h

namespace Schemes

variable {s : Schemes} {c : Curve} {secret : Bytes}

/-- Importing gives an open handle of the secret. -/
def Imports (s : Schemes) (c : Curve) (secret : Bytes) : Prop :=
  ((s.backend c).keyFromSecret secret).result = .ok (.make c "" secret) ∧
    ((s.backend c).keyFromSecret secret).handles = [.make c "" secret]

/-- Importing is refused as a failure of derivation that names the curve, and all that is left of
the handle of the trial is zeros. -/
def Rejects (s : Schemes) (c : Curve) (secret : Bytes) : Prop :=
  (∃ reason, ((s.backend c).keyFromSecret secret).result = .error (.invalidPrivateKey c reason) ∧
    (reason = .invalidKey c ∨ reason = .secretOutOfRange c)) ∧
  ((s.backend c).keyFromSecret secret).handles = [(KeyHandle.make c "" secret).release] ∧
  (KeyHandle.make c "" secret).release.IsErased

theorem imports_of_publicKey {publicKey : Bytes}
    (h : (s.primitives c).publicKey secret = .ok publicKey) : s.Imports c secret := by
  have hpublicKey : ((s.backend c).publicKey (.make c "" secret)).result = .ok publicKey :=
    Backend.publicKey_eq_ok_iff.2 ⟨rfl, rfl, h⟩
  exact Backend.keyFromSecret_of_ok hpublicKey

theorem rejects_of_not_publicKey
    (h : ¬ ∃ publicKey, (s.primitives c).publicKey secret = .ok publicKey) :
    s.Rejects c secret := by
  cases hkey : (s.primitives c).publicKey secret with
  | ok publicKey => exact absurd ⟨publicKey, hkey⟩ h
  | error f =>
    have hresult : ((s.backend c).publicKey (.make c "" secret)).result =
        .error (if f.isRefusal then f else .invalidKey c) := by
      have hmake := (s.backend c).result_publicKey_make "" secret
      rw [show (s.backend c).primitives.publicKey secret = .error f from hkey] at hmake
      exact hmake
    -- an implementation gives no reason of its own, a range check is passed on
    have hreason : (if f.isRefusal then f else .invalidKey c) = .invalidKey c ∨
        (if f.isRefusal then f else .invalidKey c) = .secretOutOfRange c := by
      rcases failsIn_publicKey s c secret f hkey with rfl | rfl
      · exact .inl rfl
      · exact .inr rfl
    have hcode : (if f.isRefusal then f else .invalidKey c).code? = some .signingFailure := by
      rcases hreason with h | h <;> rw [h] <;> rfl
    obtain ⟨herror, hhandles⟩ := Backend.keyFromSecret_of_error hresult hcode
    exact ⟨⟨_, herror, hreason⟩, hhandles, KeyHandle.isErased_release rfl⟩

theorem Rejects.not_imports (h : s.Rejects c secret) : ¬ s.Imports c secret := by
  obtain ⟨⟨reason, herror, -⟩, -⟩ := h
  rintro ⟨hok, -⟩
  cases hok.symm.trans herror

theorem imports_iff (hs : s.ChecksSecrets) (c : Curve) (secret : Bytes) :
    s.Imports c secret ↔ c.HoldsScalar secret ∧ (c.TakesBytes → secret.length = 32) := by
  rw [← publicKey_iff hs]
  constructor
  · intro h
    exact Classical.byContradiction fun hnone => (rejects_of_not_publicKey hnone).not_imports h
  · rintro ⟨publicKey, h⟩
    exact imports_of_publicKey h

theorem rejects_of_not_imports (h : ¬ s.Imports c secret) : s.Rejects c secret :=
  rejects_of_not_publicKey fun ⟨_, hkey⟩ => h (imports_of_publicKey hkey)

/-- What should become of a secret on every curve: it is imported if it is a secret of the curve, and
rejected otherwise. -/
def TreatsAlike (s : Schemes) (c : Curve) (secret : Bytes) : Prop :=
  (s.Imports c secret ↔ c.IsSecret secret) ∧ (¬ c.IsSecret secret → s.Rejects c secret)

theorem treatsAlike_iff (hs : s.ChecksSecrets) (c : Curve) (secret : Bytes) :
    s.TreatsAlike c secret ↔ (c.HoldsScalar secret → ¬ c.TakesBytes → secret.length = 32) := by
  constructor
  · rintro ⟨himports, -⟩ hscalar hbytes
    exact (himports.1 ((imports_iff hs c secret).2 ⟨hscalar, fun h => absurd h hbytes⟩)).1
  · intro hlength
    have halike : s.Imports c secret ↔ c.IsSecret secret := by
      rw [imports_iff hs]
      constructor
      · rintro ⟨hscalar, hbytes⟩
        exact ⟨Classical.byCases hbytes (hlength hscalar), hscalar⟩
      · rintro ⟨hlength, hscalar⟩
        exact ⟨hscalar, fun _ => hlength⟩
    exact ⟨halike, fun h => rejects_of_not_imports fun himports => h (halike.1 himports)⟩

/-- A secret is imported exactly if it holds a scalar, and has 32 bytes where the implementation is
given bytes; any other is rejected. So curves are treated alike except for a scalar of another
length on P-256 or the STARK curve, which is imported. -/
theorem keyFromSecret_accepts (hs : s.ChecksSecrets) (c : Curve) (secret : Bytes) :
    (s.Imports c secret ↔ c.HoldsScalar secret ∧ (c.TakesBytes → secret.length = 32)) ∧
    (¬ s.Imports c secret → s.Rejects c secret) ∧
    (s.TreatsAlike c secret ↔
      (c.HoldsScalar secret → ¬ c.TakesBytes → secret.length = 32)) :=
  ⟨imports_iff hs c secret, rejects_of_not_imports, treatsAlike_iff hs c secret⟩

theorem keyFromSecret_accepts_standard : standard.ChecksSecrets ∧
    standard.Imports .secp256k1 (Bytes.beBytes 32 1) ∧
    standard.Rejects .secp256k1 [1] ∧ standard.Rejects .stark (Bytes.beBytes 32 0) := by
  have hs := checksSecrets_standard
  refine ⟨hs, ?_, ?_, ?_⟩
  · refine (keyFromSecret_accepts hs _ _).1.2 ⟨?_, fun _ => Bytes.length_beBytes 32 1⟩
    unfold Curve.HoldsScalar
    decide +kernel
  · refine (keyFromSecret_accepts hs _ _).2.1 fun h => ?_
    have hlength := ((keyFromSecret_accepts hs _ _).1.1 h).2 trivial
    exact absurd hlength (by decide)
  · refine (keyFromSecret_accepts hs _ _).2.1 fun h => ?_
    have hscalar := ((keyFromSecret_accepts hs _ _).1.1 h).1.1
    exact absurd hscalar (by decide +kernel)

/-- One byte is a secret of the STARK curve, and 33 bytes are one of P-256. -/
theorem not_treatsAlike_lengths :
    (standard.Imports .stark [1] ∧ ¬ standard.TreatsAlike .stark [1]) ∧
    (standard.Imports .p256 (0 :: List.replicate 32 1) ∧
      ¬ standard.TreatsAlike .p256 (0 :: List.replicate 32 1)) := by
  have hstark : Curve.stark.HoldsScalar [1] := by
    unfold Curve.HoldsScalar
    decide +kernel
  have hp256 : Curve.p256.HoldsScalar (0 :: List.replicate 32 1) := by
    unfold Curve.HoldsScalar
    decide +kernel
  have himports : ∀ {c : Curve} {secret : Bytes}, c.HoldsScalar secret → ¬ c.TakesBytes →
      standard.Imports c secret := fun hscalar hbytes =>
    (imports_iff checksSecrets_standard _ _).2 ⟨hscalar, fun h => absurd h hbytes⟩
  have hnot : ∀ {c : Curve} {secret : Bytes}, standard.Imports c secret → secret.length ≠ 32 →
      ¬ standard.TreatsAlike c secret :=
    fun h hlength halike => hlength (halike.1.1 h).1
  have hshort := himports hstark id
  have hlong := himports hp256 id
  exact ⟨⟨hshort, hnot hshort (by decide)⟩, ⟨hlong, hnot hlong (by decide)⟩⟩

end Schemes

end Signatory
