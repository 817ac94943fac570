import Signatory.Proofs.Keys.LowHalf

/-!
# Signatures verify

What a backend signs it takes again, under the public key that it gives for the same handle. The
schemes are relied on to do so with what they sign themselves; between signing and verifying the
primitives digest the message, make the second number low, write the numbers in 64 bytes, read
them back and test their ranges.

1. `Schemes.IsSoundOn`: what the scheme of a curve is relied on for, by each secret that the
   primitives of the curve let through.
2. `Primitives.VerifiesOwn`: primitives take what they sign. Those of the four curves do.
3. `Schemes.verify_own`: so do the backends, with every handle and every payload.
-/

namespace Signatory

open Outcome

/-! ## What schemes are relied on for -/

/-- What the secret signs has 64 bytes and is taken under its public key. -/
structure EdwardsScheme.IsSoundAt (s : EdwardsScheme) (secret : Bytes) : Prop where
  publishes : ∀ message value, s.sign message secret = some value →
    ∃ publicKey, s.publicKey secret = some publicKey
  short : ∀ message value, s.sign message secret = some value → value.length = 64
  accepts : ∀ message value publicKey, s.sign message secret = some value →
    s.publicKey secret = some publicKey → s.verify message value publicKey = true

/-- What the secret signs is a pair in range, which is taken under its public key. -/
structure EcdsaScheme.IsSoundAt {Secret : Type} (s : EcdsaScheme Secret) (order : Nat)
    (secret : Secret) : Prop where
  publishes : ∀ digest r t, s.sign digest secret = some (r, t) →
    ∃ publicKey, s.publicKey secret = some publicKey
  inRange : ∀ digest r t, s.sign digest secret = some (r, t) →
    (0 < r ∧ r < order) ∧ 0 < t ∧ t < order
  accepts : ∀ digest r t publicKey, s.sign digest secret = some (r, t) →
    s.publicKey secret = some publicKey → s.verify digest r t publicKey = true

/-- With a pair the scheme takes the one with the second number negated. -/
def EcdsaScheme.AcceptsNegated {Secret : Type} (s : EcdsaScheme Secret) (order : Nat) : Prop :=
  ∀ digest r t publicKey, 0 < t ∧ t < order → s.verify digest r t publicKey = true →
    s.verify digest r (order - t) publicKey = true

/-- What the secret signs is a pair of numbers of 32 bytes, as its public key is one, under which
the pair is taken. -/
structure StarkScheme.IsSoundAt (s : StarkScheme) (secret : Nat) : Prop where
  key_lt : s.publicKey secret < Bytes.capacity 32
  fits : ∀ message r t, s.sign message secret = some (r, t) →
    r < Bytes.capacity 32 ∧ t < Bytes.capacity 32
  accepts : ∀ message r t, s.sign message secret = some (r, t) →
    s.verify message r t (s.publicKey secret) = true

/-- The scheme of a curve is sound at every secret that is handed to it. Low second numbers are
the work of the scheme for secp256k1. For P-256 they are not, and negating is to do no harm. -/
def Schemes.IsSoundOn (s : Schemes) : Curve → Prop
  | .ed25519 => ∀ secret, s.ed25519.IsSoundAt secret
  | .secp256k1 =>
    (∀ secret, 0 < Bytes.beNat secret ∧ Bytes.beNat secret < Weierstrass.secp256k1.order →
      s.secp256k1.IsSoundAt Weierstrass.secp256k1.order secret) ∧
    s.secp256k1.SignsLow Weierstrass.secp256k1.order
  | .p256 =>
    (∀ secret, s.p256.IsSoundAt Weierstrass.p256.order secret) ∧
    s.p256.AcceptsNegated Weierstrass.p256.order
  | .stark => ∀ secret, 0 < secret ∧ secret < Weierstrass.stark.order → s.stark.IsSoundAt secret

/-! ## Primitives -/

/-- What is signed by a secret is taken under its public key, which there is. -/
def Primitives.VerifiesOwn (p : Primitives) : Prop :=
  ∀ message secret value, p.sign message secret = .ok value →
    ∃ publicKey, p.publicKey secret = .ok publicKey ∧
      p.verify message value publicKey = .ok true

namespace Primitives

variable {s : Schemes}

theorem verifiesOwn_ed25519 (h : ∀ secret, s.ed25519.IsSoundAt secret) :
    (ed25519 s).VerifiesOwn := by
  intro message secret value hvalue
  have hsign := answer_eq_ok_iff.1 hvalue
  obtain ⟨publicKey, hkey⟩ := (h secret).publishes message value hsign
  refine ⟨publicKey, answer_eq_ok_iff.2 hkey, ?_⟩
  exact congrArg Except.ok ((h secret).accepts message value publicKey hsign hkey)

theorem publicKey_secp256k1_iff {secret publicKey : Bytes} :
    (secp256k1 s).publicKey secret = .ok publicKey ↔
      (0 < Bytes.beNat secret ∧ Bytes.beNat secret < Weierstrass.secp256k1.order) ∧
        s.secp256k1.publicKey secret = some publicKey := by
  rw [← checkSecp256k1_eq_ok_iff, ← answer_eq_ok_iff]
  constructor
  · intro h
    obtain ⟨⟨⟩, hcheck, hkey⟩ := bind_eq_ok_iff.1 h
    exact ⟨hcheck, hkey⟩
  · rintro ⟨hcheck, hkey⟩
    exact bind_eq_ok_iff.2 ⟨(), hcheck, hkey⟩

/-- The pair is signed with a low second number, so that it passes the test of ranges. -/
theorem verifiesOwn_secp256k1
    (h : ∀ secret, 0 < Bytes.beNat secret ∧ Bytes.beNat secret < Weierstrass.secp256k1.order →
      s.secp256k1.IsSoundAt Weierstrass.secp256k1.order secret)
    (hlow : s.secp256k1.SignsLow Weierstrass.secp256k1.order) : (secp256k1 s).VerifiesOwn := by
  intro message secret value hvalue
  obtain ⟨hsecret, r, t, hsign, rfl⟩ := sign_secp256k1_iff.1 hvalue
  have hsound := h secret hsecret
  obtain ⟨publicKey, hkey⟩ := hsound.publishes _ r t hsign
  obtain ⟨hr, ht⟩ := hsound.inRange _ r t hsign
  have hfits : Weierstrass.secp256k1.order < Bytes.capacity 32 := by decide
  refine ⟨publicKey, publicKey_secp256k1_iff.2 ⟨hsecret, hkey⟩, ?_⟩
  refine verify_secp256k1_iff.2 ⟨r, t, ?_, ⟨hr.1, hr.2, ht.1, hlow _ _ r t hsign⟩, ?_⟩
  · exact splitSignature_joinSignature (Nat.lt_trans hr.2 hfits) (Nat.lt_trans ht.2 hfits)
  · exact hsound.accepts _ r t publicKey hsign hkey

theorem lowHalf_inRange {order t : Nat} (h : 0 < t ∧ t < order) :
    0 < Ecdsa.lowHalf order t ∧ Ecdsa.lowHalf order t < order := by
  unfold Ecdsa.lowHalf
  split <;> omega

/-- Where the pair is signed with a high second number, its negation is what is written. -/
theorem verify_lowHalf {scheme : EcdsaScheme Nat} {order r t : Nat} {digest publicKey : Bytes}
    (hnegated : scheme.AcceptsNegated order) (ht : 0 < t ∧ t < order)
    (h : scheme.verify digest r t publicKey = true) :
    scheme.verify digest r (Ecdsa.lowHalf order t) publicKey = true := by
  unfold Ecdsa.lowHalf
  split
  · exact hnegated digest r t publicKey ht h
  · exact h

theorem verifiesOwn_p256 (h : ∀ secret, s.p256.IsSoundAt Weierstrass.p256.order secret)
    (hnegated : s.p256.AcceptsNegated Weierstrass.p256.order) : (p256 s).VerifiesOwn := by
  intro message secret value hvalue
  obtain ⟨r, t, hsign, rfl⟩ := sign_p256_iff.1 hvalue
  have hsound := h (Bytes.beNat secret)
  obtain ⟨publicKey, hkey⟩ := hsound.publishes _ r t hsign
  obtain ⟨hr, ht⟩ := hsound.inRange _ r t hsign
  have hverify := hsound.accepts _ r t publicKey hsign hkey
  have hfits : Weierstrass.p256.order < Bytes.capacity 32 := by decide
  refine ⟨publicKey, answer_eq_ok_iff.2 hkey, ?_⟩
  refine verify_p256_iff.2 ⟨r, _, ?_, lowHalf_le _ t, verify_lowHalf hnegated ht hverify⟩
  exact splitSignature_joinSignature (Nat.lt_trans hr.2 hfits)
    (Nat.lt_trans (lowHalf_inRange ht).2 hfits)

/-- The key is written in 32 bytes as well, and read back as the same number. -/
theorem verifiesOwn_stark
    (h : ∀ secret, 0 < secret ∧ secret < Weierstrass.stark.order → s.stark.IsSoundAt secret) :
    (stark s).VerifiesOwn := by
  intro message secret value hvalue
  obtain ⟨z, n, r, t, hz, hn, hsign, rfl⟩ := sign_stark_iff.1 hvalue
  obtain ⟨hsecret, rfl⟩ := starkScalar_eq_ok_iff.1 hn
  have hsound := h _ hsecret
  obtain ⟨hr, ht⟩ := hsound.fits z r t hsign
  refine ⟨Bytes.beBytes 32 (s.stark.publicKey (Bytes.beNat secret)), ?_, ?_⟩
  · exact bind_eq_ok_iff.2 ⟨Bytes.beNat secret, hn, rfl⟩
  · refine bind_eq_ok_iff.2 ⟨(r, t), splitSignature_joinSignature hr ht, ?_⟩
    refine bind_eq_ok_iff.2 ⟨z, hz, ?_⟩
    rw [Bytes.beNat_beBytes, Nat.mod_eq_of_lt hsound.key_lt]
    exact congrArg Except.ok (hsound.accepts z r t hsign)

end Primitives

/-! ## Backends -/

theorem Backend.verify_of_sign {b : Backend} (hb : b.primitives.VerifiesOwn) {payload : Payload}
    {key : KeyHandle} {signature : Signature}
    (h : (b.sign payload (some key)).1.result = .ok signature) :
    ∃ publicKey, (b.publicKey key).result = .ok publicKey ∧
      b.verify payload.message signature publicKey = true := by
  obtain ⟨⟨hkey, hreleased, -⟩, hsign, hcurve⟩ := sign_eq_ok_iff.1 h
  obtain ⟨publicKey, hpublic, hverify⟩ := hb _ _ _ hsign
  refine ⟨publicKey, publicKey_eq_ok_iff.2 ⟨hkey, hreleased, hpublic⟩, ?_⟩
  exact Bool.and_eq_true_iff.2 ⟨decide_eq_true hcurve, verifyBytes_eq_true_iff.2 hverify⟩

namespace Schemes

theorem verifiesOwn {s : Schemes} {c : Curve} (hs : s.IsSoundOn c) :
    (s.backend c).primitives.VerifiesOwn := by
  cases c with
  | ed25519 => exact Primitives.verifiesOwn_ed25519 hs
  | secp256k1 => exact Primitives.verifiesOwn_secp256k1 hs.1 hs.2
  | p256 => exact Primitives.verifiesOwn_p256 hs.1 hs.2
  | stark => exact Primitives.verifiesOwn_stark hs

end Schemes

/-! ## Schemes on record -/

namespace EcdsaRecord

variable {Secret : Type} [DecidableEq Secret] {order : Nat} (e : EcdsaRecord Secret order)

theorem isSoundAt_scheme (secret : Secret) : e.scheme.IsSoundAt order secret where
  publishes := by
    intro digest r t hsign
    exact ⟨e.publicKey, if_pos (sign_scheme_iff.1 hsign).1.2⟩
  inRange := by
    intro digest r t hsign
    obtain ⟨-, rfl, rfl⟩ := sign_scheme_iff.1 hsign
    exact ⟨e.r_range, e.t_range⟩
  accepts := by
    intro digest r t publicKey hsign hkey
    obtain ⟨⟨hdigest, hsecret⟩, rfl, rfl⟩ := sign_scheme_iff.1 hsign
    have hpublic : some e.publicKey = some publicKey := (if_pos hsecret).symm.trans hkey
    exact verify_scheme_iff.2 ⟨⟨hdigest, (Option.some.inj hpublic).symm⟩, rfl, .inl rfl⟩

theorem acceptsNegated_scheme : e.scheme.AcceptsNegated order := by
  intro digest r t publicKey ht hverify
  obtain ⟨hof, hr, hpair⟩ := verify_scheme_iff.1 hverify
  have hrange := e.t_range
  exact verify_scheme_iff.2 ⟨hof, hr, by omega⟩

end EcdsaRecord

namespace Schemes

/-- Every signature that a backend makes is taken by it under the public key of the handle, which
there is, whether that was derived or imported. It has 64 bytes, is marked with the curve, and is
low on secp256k1 and P-256. -/
theorem verify_own {s : Schemes} {c : Curve} (hs : s.IsSoundOn c) {payload : Payload}
    {key : KeyHandle} {signature : Signature}
    (h : ((s.backend c).sign payload (some key)).1.result = .ok signature) :
    (∃ publicKey, ((s.backend c).publicKey key).result = .ok publicKey ∧
      (s.backend c).verify payload.message signature publicKey = true) ∧
    signature.curve = c ∧ signature.value.length = 64 ∧
    ∀ scheme order, s.lowSigned? c = some (scheme, order) →
      Primitives.IsLow order signature.value := by
  obtain ⟨-, hsign, hcurve⟩ := Backend.sign_eq_ok_iff.1 h
  have hshort : (s.backend c).primitives.SignsShort := by
    refine signsShort fun hed25519 message secret => ?_
    cases hed25519
    exact (hs secret).short message
  refine ⟨Backend.verify_of_sign (verifiesOwn hs) h, hcurve, hshort _ _ _ hsign, ?_⟩
  intro scheme order hc
  refine isLow_of_sign hc (fun hsecp256k1 => ?_) hsign
  cases hsecp256k1
  cases hc
  exact hs.2

/-- The signature on record is high. It is made low, and what is made of it is taken. -/
theorem verify_own_recorded :
    let e := EcdsaRecord.p256
    let b := recorded.backend .p256
    let key := KeyHandle.make .p256 "" EcdsaRecord.secp256k1.secret
    let signature : Signature :=
      ⟨.p256, Primitives.joinSignature e.r (Weierstrass.p256.order - e.t)⟩
    Weierstrass.p256.order / 2 < e.t ∧
    (b.sign (.ofMessage e.message) (some key)).1.result = .ok signature ∧
    (∃ publicKey, (b.publicKey key).result = .ok publicKey ∧
      b.verify e.message signature publicKey = true) ∧
    signature.value.length = 64 ∧
    Primitives.IsLow Weierstrass.p256.order signature.value := by
  intro e b key signature
  have hhigh : Weierstrass.p256.order / 2 < e.t := by decide
  have hsound : recorded.IsSoundOn .p256 :=
    ⟨EcdsaRecord.isSoundAt_scheme e, EcdsaRecord.acceptsNegated_scheme e⟩
  have hsign : (b.sign (.ofMessage e.message) (some key)).1.result = .ok signature := by
    refine Backend.sign_eq_ok_iff.2 ⟨⟨rfl, rfl, rfl⟩, Primitives.sign_p256_iff.2 ?_, rfl⟩
    refine ⟨e.r, e.t, EcdsaRecord.sign_scheme_iff.2 ⟨⟨rfl, rfl⟩, rfl, rfl⟩, ?_⟩
    exact congrArg (Primitives.joinSignature e.r) (if_pos hhigh)
  obtain ⟨hverify, -, hlength, hlow⟩ := verify_own hsound hsign
  exact ⟨hhigh, hsign, hverify, hlength, hlow _ _ rfl⟩

end Schemes

end Signatory
