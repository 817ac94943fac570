import Signatory.Proofs.Keys.Signing

/-!
# Low second halves

A signature of secp256k1 or P-256 is a pair of numbers, and most verifiers take the pair with the
second number negated as well. The order of the group is odd, so that one of the two numbers is at
most half of it and the other is not.

1. `verify_secp256k1_iff` and `verify_p256_iff`: what the two verifiers check besides what their
   schemes check.
2. `isLow_negated_iff`: of a signature and its negation one is low.
3. `takes_joinSignature_iff`: of the pairs in range a backend takes the low ones that its scheme
   takes. `isLow_of_sign`: what it signs is low.
4. `Schemes.not_malleable`: no backend takes a signature and its negation.
-/

namespace Signatory

open Outcome

/-- A scheme that takes numbers for secrets, given the numbers that byte strings stand for. -/
def EcdsaScheme.onBytes (s : EcdsaScheme Nat) : EcdsaScheme Bytes where
  publicKey secret := s.publicKey (Bytes.beNat secret)
  sign digest secret := s.sign digest (Bytes.beNat secret)
  verify := s.verify

/-- The schemes whose signatures have a low second half, with the orders of their groups. -/
def Schemes.lowSigned? (s : Schemes) : Curve → Option (EcdsaScheme Bytes × Nat)
  | .secp256k1 => some (s.secp256k1, Weierstrass.secp256k1.order)
  | .p256 => some (s.p256.onBytes, Weierstrass.p256.order)
  | .ed25519 | .stark => none

theorem Schemes.odd_of_lowSigned? {s : Schemes} {c : Curve} {scheme : EcdsaScheme Bytes} {order : Nat}
    (h : s.lowSigned? c = some (scheme, order)) : order % 2 = 1 ∧ order < Bytes.capacity 32 := by
  cases c with
  | ed25519 | stark => cases h
  | secp256k1 | p256 =>
    cases h
    decide

namespace Primitives

/-! ## Pairs of numbers -/

/-- The second number of a signature is at most half of the order. -/
def IsLow (order : Nat) (signature : Bytes) : Prop :=
  Bytes.beNat (signature.drop 32) ≤ order / 2

section Pairs

variable {order r t : Nat} {signature : Bytes}

theorem splitSignature_eq_ok_iff : splitSignature signature = .ok (r, t) ↔
    signature.length = 64 ∧ Bytes.beNat (signature.take 32) = r ∧
      Bytes.beNat (signature.drop 32) = t :=
  ite_eq_ok_iff.trans (and_congr_right fun _ => Prod.ext_iff)

theorem drop_joinSignature (r t : Nat) : (joinSignature r t).drop 32 = Bytes.beBytes 32 t :=
  List.drop_left' (Bytes.length_beBytes 32 r)

/-- Numbers that fit in their halves are found there. -/
theorem splitSignature_joinSignature (hr : r < Bytes.capacity 32) (ht : t < Bytes.capacity 32) :
    splitSignature (joinSignature r t) = .ok (r, t) := by
  have htake : (joinSignature r t).take 32 = Bytes.beBytes 32 r :=
    List.take_left' (Bytes.length_beBytes 32 r)
  refine splitSignature_eq_ok_iff.2 ⟨length_joinSignature r t, ?_, ?_⟩
  · rw [htake, Bytes.beNat_beBytes, Nat.mod_eq_of_lt hr]
  · rw [drop_joinSignature, Bytes.beNat_beBytes, Nat.mod_eq_of_lt ht]

theorem isLow_joinSignature_iff (ht : t < Bytes.capacity 32) :
    IsLow order (joinSignature r t) ↔ t ≤ order / 2 := by
  unfold IsLow
  rw [drop_joinSignature, Bytes.beNat_beBytes, Nat.mod_eq_of_lt ht]

/-- Of a signature and the one with its second number negated, one is low. -/
theorem isLow_negated_iff (hodd : order % 2 = 1) (hfits : order < Bytes.capacity 32)
    (hpos : 0 < t) (hlt : t < order) :
    IsLow order (joinSignature r (order - t)) ↔ ¬ IsLow order (joinSignature r t) := by
  rw [isLow_joinSignature_iff (by omega), isLow_joinSignature_iff (by omega)]
  omega

/-- A number that does not fit in its half is cut, which leaves it low if it was. -/
theorem isLow_joinSignature (r : Nat) (h : t ≤ order / 2) : IsLow order (joinSignature r t) := by
  unfold IsLow
  rw [drop_joinSignature, Bytes.beNat_beBytes]
  exact Nat.le_trans (Nat.mod_le _ _) h

theorem lowHalf_le (order t : Nat) : Ecdsa.lowHalf order t ≤ order / 2 := by
  unfold Ecdsa.lowHalf
  split <;> omega

end Pairs

/-! ## Verifying -/

section Ecdsa

variable {s : Schemes} {message signature publicKey : Bytes}

theorem verify_secp256k1_iff :
    (secp256k1 s).verify message signature publicKey = .ok true ↔
      ∃ r t, splitSignature signature = .ok (r, t) ∧
        (0 < r ∧ r < Weierstrass.secp256k1.order ∧ 0 < t ∧ t ≤ Weierstrass.secp256k1.order / 2) ∧
        s.secp256k1.verify (Sha256.digest message) r t publicKey = true := by
  constructor
  · intro h
    obtain ⟨⟨r, t⟩, hsplit, h⟩ := bind_eq_ok_iff.1 h
    dsimp only at h
    split at h
    · rename_i hrange
      exact ⟨r, t, hsplit, hrange, Except.ok.inj h⟩
    · cases h
  · rintro ⟨r, t, hsplit, hrange, hverify⟩
    refine bind_eq_ok_iff.2 ⟨(r, t), hsplit, ?_⟩
    dsimp only
    rw [if_pos hrange, hverify]
    rfl

theorem verify_p256_iff :
    (p256 s).verify message signature publicKey = .ok true ↔
      ∃ r t, splitSignature signature = .ok (r, t) ∧ t ≤ Weierstrass.p256.order / 2 ∧
        s.p256.verify (Sha256.digest message) r t publicKey = true := by
  constructor
  · intro h
    obtain ⟨⟨r, t⟩, hsplit, h⟩ := bind_eq_ok_iff.1 h
    dsimp only at h
    split at h
    · cases h
    · rename_i hhigh
      exact ⟨r, t, hsplit, Nat.not_lt.1 hhigh, Except.ok.inj h⟩
  · rintro ⟨r, t, hsplit, hlow, hverify⟩
    refine bind_eq_ok_iff.2 ⟨(r, t), hsplit, ?_⟩
    dsimp only
    rw [if_neg (Nat.not_lt.2 hlow), hverify]
    rfl

end Ecdsa

end Primitives

/-! ## Backends -/

/-- The second numbers that a scheme signs with are low already. -/
def EcdsaScheme.SignsLow {Secret : Type} (s : EcdsaScheme Secret) (order : Nat) : Prop :=
  ∀ digest secret r t, s.sign digest secret = some (r, t) → t ≤ order / 2

/-- The backend takes the bytes for a signature, with a curve stated for them or without. -/
def Backend.Takes (b : Backend) (message signature publicKey : Bytes) : Prop :=
  b.verifyBytes message signature publicKey = true ∨
    ∃ curve, b.verify message ⟨curve, signature⟩ publicKey = true

theorem Backend.verifyBytes_eq_true_iff {b : Backend} {message signature publicKey : Bytes} :
    b.verifyBytes message signature publicKey = true ↔
      b.primitives.verify message signature publicKey = .ok true := by
  unfold verifyBytes
  cases b.primitives.verify message signature publicKey with
  | ok valid => simp
  | error f => simp

theorem Backend.takes_iff {b : Backend} {message signature publicKey : Bytes} :
    b.Takes message signature publicKey ↔
      b.primitives.verify message signature publicKey = .ok true := by
  rw [← verifyBytes_eq_true_iff]
  constructor
  · rintro (h | ⟨curve, h⟩)
    · exact h
    · exact (Bool.and_eq_true_iff.1 h).2
  · exact .inl

namespace Schemes

open Primitives

section LowHalf

variable {s : Schemes} {c : Curve} {scheme : EcdsaScheme Bytes} {order : Nat}
  (hc : s.lowSigned? c = some (scheme, order))

include hc

/-- What is taken is a low pair that the scheme takes. -/
theorem exists_of_takes {message signature publicKey : Bytes}
    (h : (s.backend c).Takes message signature publicKey) :
    ∃ r t, splitSignature signature = .ok (r, t) ∧ t ≤ order / 2 ∧
      scheme.verify (Sha256.digest message) r t publicKey = true := by
  have hverify := Backend.takes_iff.1 h
  cases c with
  | ed25519 | stark => cases hc
  | secp256k1 =>
    cases hc
    obtain ⟨r, t, hsplit, hrange, hscheme⟩ := verify_secp256k1_iff.1 hverify
    exact ⟨r, t, hsplit, hrange.2.2.2, hscheme⟩
  | p256 =>
    cases hc
    exact verify_p256_iff.1 hverify

/-- Only low signatures are taken, whatever the scheme takes. -/
theorem isLow_of_takes {message signature publicKey : Bytes}
    (h : (s.backend c).Takes message signature publicKey) : IsLow order signature := by
  obtain ⟨r, t, hsplit, hlow, -⟩ := exists_of_takes hc h
  unfold IsLow
  rw [(splitSignature_eq_ok_iff.1 hsplit).2.2]
  exact hlow

/-- Of the pairs in range, the low ones that the scheme takes are taken. -/
theorem takes_joinSignature_iff {message publicKey : Bytes} {r t : Nat}
    (hr : 0 < r ∧ r < order) (ht : 0 < t ∧ t < order) :
    (s.backend c).Takes message (joinSignature r t) publicKey ↔
      t ≤ order / 2 ∧ scheme.verify (Sha256.digest message) r t publicKey = true := by
  obtain ⟨-, hfits⟩ := odd_of_lowSigned? hc
  have hsplit := splitSignature_joinSignature (Nat.lt_trans hr.2 hfits) (Nat.lt_trans ht.2 hfits)
  constructor
  · intro h
    obtain ⟨r', t', hsplit', hlow, hverify⟩ := exists_of_takes hc h
    cases hsplit.symm.trans hsplit'
    exact ⟨hlow, hverify⟩
  · rintro ⟨hlow, hverify⟩
    rw [Backend.takes_iff]
    cases c with
    | ed25519 | stark => cases hc
    | secp256k1 =>
      cases hc
      exact verify_secp256k1_iff.2 ⟨r, t, hsplit, ⟨hr.1, hr.2, ht.1, hlow⟩, hverify⟩
    | p256 =>
      cases hc
      exact verify_p256_iff.2 ⟨r, t, hsplit, hlow, hverify⟩

/-- What is signed is low. P-256 makes it so, and secp256k1 leaves it to its scheme. -/
theorem isLow_of_sign (hlow : c = .secp256k1 → scheme.SignsLow order)
    {message secret signature : Bytes}
    (h : (s.backend c).primitives.sign message secret = .ok signature) : IsLow order signature := by
  cases c with
  | ed25519 | stark => cases hc
  | secp256k1 =>
    cases hc
    obtain ⟨-, r, t, hsign, rfl⟩ := sign_secp256k1_iff.1 h
    exact isLow_joinSignature r (hlow rfl _ _ _ _ hsign)
  | p256 =>
    cases hc
    obtain ⟨r, t, -, rfl⟩ := sign_p256_iff.1 h
    exact isLow_joinSignature r (lowHalf_le _ t)

end LowHalf

end Schemes

/-! ## Signatures on record -/

/-- One pair of numbers that a secret signs a message with. -/
structure EcdsaRecord (Secret : Type) (order : Nat) where
  message : Bytes
  secret : Secret
  publicKey : Bytes
  r : Nat
  t : Nat
  r_range : 0 < r ∧ r < order
  t_range : 0 < t ∧ t < order

namespace EcdsaRecord

variable {Secret : Type} [DecidableEq Secret] {order : Nat} {e : EcdsaRecord Secret order}
  {secret : Secret} {digest publicKey : Bytes} {r t : Nat}

/-- The scheme that signs what is on record alone. It takes the pair, and the pair with the second
number negated. -/
def scheme (e : EcdsaRecord Secret order) : EcdsaScheme Secret where
  publicKey secret := if secret = e.secret then some e.publicKey else none
  sign digest secret :=
    if digest = Sha256.digest e.message ∧ secret = e.secret then some (e.r, e.t) else none
  verify digest r t publicKey :=
    decide ((digest = Sha256.digest e.message ∧ publicKey = e.publicKey) ∧
      r = e.r ∧ (t = e.t ∨ t = order - e.t))

theorem sign_scheme_iff : e.scheme.sign digest secret = some (r, t) ↔
    (digest = Sha256.digest e.message ∧ secret = e.secret) ∧ e.r = r ∧ e.t = t := by
  simp [scheme]

theorem verify_scheme_iff : e.scheme.verify digest r t publicKey = true ↔
    (digest = Sha256.digest e.message ∧ publicKey = e.publicKey) ∧
      r = e.r ∧ (t = e.t ∨ t = order - e.t) :=
  decide_eq_true_iff

theorem signsLow_scheme (h : e.t ≤ order / 2) : e.scheme.SignsLow order := by
  intro digest secret r t hsign
  rw [← (sign_scheme_iff.1 hsign).2.2]
  exact h

/-- A signature of the bytes 1, 2, 3 on secp256k1, by the secret of the bytes from 1 to 32. -/
def secp256k1 : EcdsaRecord Bytes Weierstrass.secp256k1.order where
  message := [1, 2, 3]
  secret := [1, 2, 3, 4, 5, 6, 7, 8, 9, 10, 11, 12, 13, 14, 15, 16, 17, 18, 19, 20, 21, 22, 23,
    24, 25, 26, 27, 28, 29, 30, 31, 32]
  publicKey := [2, 132, 191, 117, 98, 38, 43, 189, 105, 64, 8, 87, 72, 243, 190, 106, 250, 82,
    174, 49, 113, 85, 24, 30, 206, 49, 182, 99, 81, 204, 255, 164, 176]
  r := 81140839251511534376662953957282761201187654281183479401818371220128826809071
  t := 37188538203990315738346394940988292014652667506251055848319905637858330334456
  r_range := by decide
  t_range := by decide

example : Schemes.standardSecp256k1.verify (Sha256.digest secp256k1.message) secp256k1.r
    secp256k1.t secp256k1.publicKey = true := by decide +kernel

/-- A signature of the same bytes by the same secret on P-256, with a high second number. -/
def p256 : EcdsaRecord Nat Weierstrass.p256.order where
  message := [1, 2, 3]
  secret := Bytes.beNat secp256k1.secret
  publicKey := [2, 81, 92, 61, 110, 185, 227, 150, 185, 4, 211, 254, 202, 127, 84, 253, 205, 12,
    193, 233, 151, 191, 55, 93, 202, 81, 90, 208, 166, 195, 180, 3, 95]
  r := 17123499672984336509592674792580115931068739957813630920636319713901112119427
  t := Weierstrass.p256.order -
    23743139342261085541729391154132136908383451130732013089984215643245896271997
  r_range := by decide
  t_range := by decide

example : Schemes.standardP256.verify (Sha256.digest p256.message) p256.r p256.t
    p256.publicKey = true := by decide +kernel

end EcdsaRecord

/-! ## Malleability -/

namespace Schemes

open Primitives

/-- A backend never takes both a pair of numbers and the pair with the second one negated, whatever
its scheme takes. Of the pairs in range it takes the low ones that the scheme takes, and what it
signs is low; on secp256k1 that is left to the scheme. -/
theorem not_malleable {s : Schemes} {c : Curve} {scheme : EcdsaScheme Bytes} {order : Nat}
    (hc : s.lowSigned? c = some (scheme, order)) :
    (∀ message publicKey r t, 0 < t → t < order →
      ¬ ((s.backend c).Takes message (joinSignature r t) publicKey ∧
        (s.backend c).Takes message (joinSignature r (order - t)) publicKey)) ∧
    (∀ message publicKey r t, 0 < r ∧ r < order → 0 < t ∧ t < order →
      ((s.backend c).Takes message (joinSignature r t) publicKey ↔
        t ≤ order / 2 ∧ scheme.verify (Sha256.digest message) r t publicKey = true)) ∧
    ((c = .secp256k1 → scheme.SignsLow order) → ∀ payload key signature,
      ((s.backend c).sign payload key).1.result = .ok signature →
        IsLow order signature.value) := by
  obtain ⟨hodd, hfits⟩ := odd_of_lowSigned? hc
  refine ⟨?_, fun message publicKey r t hr ht => takes_joinSignature_iff hc hr ht, ?_⟩
  · rintro message publicKey r t hpos hlt ⟨htakes, hnegated⟩
    exact (isLow_negated_iff hodd hfits hpos hlt).1 (isLow_of_takes hc hnegated)
      (isLow_of_takes hc htakes)
  · intro hlow payload key signature h
    obtain ⟨-, message, secret, hsign⟩ := Backend.sign_eq_ok h
    exact isLow_of_sign hc hlow hsign

/-- The schemes of the library, with ECDSA as it is on record. -/
def recorded : Schemes :=
  { standard with secp256k1 := EcdsaRecord.secp256k1.scheme, p256 := EcdsaRecord.p256.scheme }

/-- The scheme takes the signature on record and its negation. The backend takes the first alone,
which is the one that it makes. -/
theorem not_malleable_recorded :
    let e := EcdsaRecord.secp256k1
    let b := recorded.backend .secp256k1
    let negated := Weierstrass.secp256k1.order - e.t
    (e.scheme.verify (Sha256.digest e.message) e.r e.t e.publicKey = true ∧
      e.scheme.verify (Sha256.digest e.message) e.r negated e.publicKey = true) ∧
    (b.Takes e.message (joinSignature e.r e.t) e.publicKey ∧
      ¬ b.Takes e.message (joinSignature e.r negated) e.publicKey) ∧
    (b.sign (.ofMessage e.message) (some (.make .secp256k1 "" e.secret))).1.result =
      .ok ⟨.secp256k1, joinSignature e.r e.t⟩ ∧
    IsLow Weierstrass.secp256k1.order (joinSignature e.r e.t) := by
  intro e b negated
  have hlow : e.t ≤ Weierstrass.secp256k1.order / 2 := by decide
  have hverify : e.scheme.verify (Sha256.digest e.message) e.r e.t e.publicKey = true :=
    EcdsaRecord.verify_scheme_iff.2 ⟨⟨rfl, rfl⟩, rfl, .inl rfl⟩
  have hsign : (b.sign (.ofMessage e.message) (some (.make .secp256k1 "" e.secret))).1.result =
      .ok ⟨.secp256k1, joinSignature e.r e.t⟩ := by
    refine Backend.sign_eq_ok_iff.2 ⟨⟨rfl, rfl, rfl⟩, sign_secp256k1_iff.2 ⟨?_, ?_⟩, rfl⟩
    · decide
    · exact ⟨e.r, e.t, EcdsaRecord.sign_scheme_iff.2 ⟨⟨rfl, rfl⟩, rfl, rfl⟩, rfl⟩
  obtain ⟨hnot, htakes, hsigned⟩ := not_malleable (s := recorded) (c := .secp256k1) rfl
  have htaken := (htakes e.message e.publicKey e.r e.t e.r_range e.t_range).2 ⟨hlow, hverify⟩
  refine ⟨⟨hverify, ?_⟩, ⟨htaken, fun hnegated => ?_⟩, hsign, ?_⟩
  · exact EcdsaRecord.verify_scheme_iff.2 ⟨⟨rfl, rfl⟩, rfl, .inr rfl⟩
  · exact hnot _ _ _ _ e.t_range.1 e.t_range.2 ⟨htaken, hnegated⟩
  · exact hsigned (fun _ => EcdsaRecord.signsLow_scheme hlow) _ _ _ hsign

end Schemes

end Signatory
