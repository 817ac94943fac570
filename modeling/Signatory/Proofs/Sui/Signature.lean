import Signatory.ChainTable
import Signatory.Proofs.Sui.ByteText

/-!
# Serialized signatures are taken apart again

1. `parseSignature_of_serialize`: a signature of 64 bytes and its public key are found in what they
   are serialized to. The flag in front keeps the text from starting like a hexadecimal one.
2. `parseSignature_eq_ok_iff`: which texts a signature and a public key are found in.
3. `parseSignature_inverts`: parsing and serializing undo each other, up to the spelling of a text.
-/

namespace Signatory.Sui

open Outcome

/-! ## Flags -/

/-- A curve with a flag is found by it. The text of bytes behind a flag starts with `A`. -/
theorem flag_spec {c : Curve} {b : UInt8} (h : flag c = .ok b) :
    curveOfFlag? b = some c ∧ b.toNat / 4 = 0 := by
  cases c with
  | stark => cases h
  | ed25519 | secp256k1 | p256 =>
    obtain rfl := Except.ok.inj h
    decide

theorem exists_flag_iff {c : Curve} : (∃ b, flag c = .ok b) ↔ c ≠ .stark := by
  cases c with
  | stark =>
    refine iff_of_false ?_ fun h => h rfl
    rintro ⟨b, hb⟩
    cases hb
  | ed25519 | secp256k1 | p256 => exact iff_of_true ⟨_, rfl⟩ (by decide)

/-- The curves that Sui accepts are the ones with a flag. -/
theorem mem_curves_iff {c : Curve} : c ∈ ChainInfo.sui.curves ↔ ∃ b, flag c = .ok b := by
  rw [exists_flag_iff]
  cases c <;> decide

/-- The byte that a curve is found by is its flag. -/
theorem flag_of_curveOfFlag? {c : Curve} {b : UInt8} (h : curveOfFlag? b = some c) :
    flag c = .ok b := by
  obtain ⟨p, hp, rfl⟩ := Option.map_eq_some_iff.1 h
  have hbyte : p.2 = b.toNat := by simpa using List.find?_some hp
  have hflag : flag p.1 = .ok (UInt8.ofNat p.2) := by
    have hmem := List.mem_of_find?_eq_some hp
    simp only [flags, List.mem_cons, List.not_mem_nil, or_false] at hmem
    rcases hmem with rfl | rfl | rfl <;> rfl
  rw [hflag, hbyte, UInt8.ofNat_toNat]

/-! ## Signatures -/

/-- A signature is found in a text exactly if the text stands for a flag, 64 bytes and whatever
follows them. -/
theorem parseSignature_eq_ok_iff {text : String} {s : Signature} {publicKey : Bytes} :
    parseSignature text = .ok (s, publicKey) ↔ s.value.length = 64 ∧
      ∃ b, flag s.curve = .ok b ∧
        decodeText "signature" text = .ok (b :: s.value ++ publicKey) := by
  constructor
  · intro h
    obtain ⟨bs, hdecode, h⟩ := bind_eq_ok_iff.1 h
    cases bs with
    | nil => cases h
    | cons b rest =>
      dsimp only at h
      split at h
      · cases h
      · rename_i hlong
        cases hcurve : curveOfFlag? b with
        | none =>
          rw [hcurve] at h
          cases h
        | some c =>
          rw [hcurve] at h
          cases h
          refine ⟨?_, b, flag_of_curveOfFlag? hcurve, ?_⟩
          · rw [List.length_take]
            omega
          · rw [List.cons_append, List.take_append_drop]
            exact hdecode
  · rintro ⟨hlength, b, hb, hdecode⟩
    have hlong : ¬ (s.value ++ publicKey).length < 64 := by
      rw [List.length_append]
      omega
    refine bind_eq_ok_iff.2 ⟨b :: (s.value ++ publicKey), hdecode, ?_⟩
    dsimp only
    rw [if_neg hlong, (flag_spec hb).1, List.take_left' hlength, List.drop_left' hlength]
    rfl

/-- A signature of 64 bytes and its public key are found in their serialized form. -/
theorem parseSignature_of_serialize {s : Signature} {publicKey : Bytes} {text : String}
    (hlength : s.value.length = 64) (h : serializeSignature s publicKey = .ok text) :
    parseSignature text = .ok (s, publicKey) := by
  obtain ⟨b, hb, h⟩ := bind_eq_ok_iff.1 h
  obtain rfl := Except.ok.inj h
  have hmark : Text.hasHexMark (Text.Base64.encodeChars (b :: s.value ++ publicKey)) = false := by
    refine Text.hasHexMark_of_head? ?_
    rw [List.cons_append, Text.Base64.head?_encodeChars, (flag_spec hb).2]
    decide
  exact parseSignature_eq_ok_iff.2 ⟨hlength, b, hb, decodeText_encode hmark _⟩

theorem serializeSignature_of_flag {s : Signature} {b : UInt8} (h : flag s.curve = .ok b)
    (publicKey : Bytes) : serializeSignature s publicKey =
      .ok (Text.Base64.encode (b :: s.value ++ publicKey)) :=
  bind_of_eq_ok h _

/-- Parsing finds what was serialized, for each curve that Sui accepts. A signature is found in a
text exactly if it serializes to the base 64 text of the bytes that the text stands for, however the
text spells them, and then the same signature is found in that one too. -/
theorem parseSignature_inverts :
    (∀ c ∈ ChainInfo.sui.curves, ∀ value publicKey : Bytes, value.length = 64 →
      ∃ text, serializeSignature ⟨c, value⟩ publicKey = .ok text ∧
        parseSignature text = .ok (⟨c, value⟩, publicKey)) ∧
    ∀ text s publicKey, parseSignature text = .ok (s, publicKey) ↔
      s.value.length = 64 ∧ ∃ bs, decodeText "signature" text = .ok bs ∧
        serializeSignature s publicKey = .ok (Text.Base64.encode bs) ∧
        parseSignature (Text.Base64.encode bs) = .ok (s, publicKey) := by
  constructor
  · intro c hc value publicKey hlength
    obtain ⟨b, hb⟩ := mem_curves_iff.1 hc
    have hserialize := serializeSignature_of_flag (s := ⟨c, value⟩) hb publicKey
    exact ⟨_, hserialize, parseSignature_of_serialize hlength hserialize⟩
  · intro text s publicKey
    constructor
    · intro h
      obtain ⟨hlength, b, hb, hdecode⟩ := parseSignature_eq_ok_iff.1 h
      have hserialize := serializeSignature_of_flag hb publicKey
      exact ⟨hlength, _, hdecode, hserialize, parseSignature_of_serialize hlength hserialize⟩
    · rintro ⟨hlength, bs, hdecode, hserialize, hparse⟩
      obtain ⟨-, b, hb, -⟩ := parseSignature_eq_ok_iff.1 hparse
      have hsame := (serializeSignature_of_flag hb publicKey).symm.trans hserialize
      rw [← Text.Base64.eq_of_encode_eq (Except.ok.inj hsame)] at hdecode
      exact parseSignature_eq_ok_iff.2 ⟨hlength, b, hb, hdecode⟩

/-- A signature of 64 zero bytes. -/
def zeroSignature : Signature := ⟨.secp256k1, List.replicate 64 0⟩

/-- The signature without a public key in base 64. There are blanks around it, and its last digit
has a bit that does not count. -/
def looseText : String :=
  String.ofList ('\t' :: 'A' :: 'Q' :: (List.replicate 84 'A' ++ ['B', '=', ' ']))

theorem parseSignature_inverts_looseText :
    (zeroSignature.value.length = 64 ∧
      ∃ text, serializeSignature zeroSignature [2, 7] = .ok text ∧
        parseSignature text = .ok (zeroSignature, [2, 7])) ∧
    parseSignature looseText = .ok (zeroSignature, []) ∧
      ∃ bs, decodeText "signature" looseText = .ok bs ∧
        serializeSignature zeroSignature [] = .ok (Text.Base64.encode bs) ∧
        parseSignature (Text.Base64.encode bs) = .ok (zeroSignature, []) := by
  have hlength : zeroSignature.value.length = 64 := List.length_replicate
  have hloose : parseSignature looseText = .ok (zeroSignature, []) := by
    refine parseSignature_eq_ok_iff.2 ⟨hlength, 1, rfl, ?_⟩
    exact (decodeText_eq_ok_iff rfl).2 (by decide +kernel)
  obtain ⟨hserialized, hparsed⟩ := parseSignature_inverts
  obtain ⟨-, bs, hdecode, hserialize, hparse⟩ := (hparsed looseText zeroSignature []).1 hloose
  exact ⟨⟨hlength, hserialized .secp256k1 (by decide) zeroSignature.value [2, 7] hlength⟩, hloose,
    bs, hdecode, hserialize, hparse⟩

end Signatory.Sui
