import Signatory.Proofs.Keys.Failing
import Signatory.Proofs.Signer.Plan

/-!
# How performing a plan fails

`IsBuiltIn.failsIn_perform`: on the built-in chains, performing a plan fails because of the key, or
because the sender of a bare hash is read only then.
-/

namespace Signatory

open Outcome

namespace Signer

variable {s : Signer}

/-- A signer of the built-in chains, over any schemes. Its table may have further chains. -/
structure IsBuiltIn (s : Signer) : Prop where
  keys : ∃ schemes : Schemes, s.keys.backend = schemes.backend
  chains : s.chains.IsReached
  codecs : s.codecs = .standard

theorem isBuiltIn_standard : standard.IsBuiltIn :=
  ⟨⟨.standard, rfl⟩, .standard, rfl⟩

theorem IsBuiltIn.isTame (hs : s.IsBuiltIn) (c : Curve) :
    (s.keys.backend c).primitives.IsTame := by
  obtain ⟨schemes, hschemes⟩ := hs.keys
  rw [hschemes]
  exact schemes.isTame_primitives c

end Signer

/-! ## The built-in codecs -/

/-- One of the codecs of the built-in chains. -/
def Codec.IsBuiltIn (c : Codec) : Prop :=
  c = .sui ∨ c = .starknet

namespace Codec

variable {c : Codec}

theorem IsBuiltIn.chain_eq (hc : c.IsBuiltIn) : c.chain = "SUI" ∨ c.chain = "STARKNET" := by
  rcases hc with rfl | rfl
  · exact .inl rfl
  · exact .inr rfl

theorem IsBuiltIn.normal_chain (hc : c.IsBuiltIn) : Tag.normal c.chain = c.chain := by
  rcases hc with rfl | rfl <;> rfl

theorem IsBuiltIn.ofValue_chain (hc : c.IsBuiltIn) :
    Tag.ofValue (.text c.chain) = .ok c.chain := by
  rcases hc with rfl | rfl <;> rfl

/-- A failure of reading the late sender. -/
def RefusesSender (c : Codec) (u : Unsigned c.Body) (f : Failure) : Prop :=
  ∃ sender, c.lateSender? u = some sender ∧ Starknet.Felt.parse "sender" sender = .error f

theorem IsBuiltIn.exists_signedOutput (hc : c.IsBuiltIn) (o : c.Output) :
    ∃ output, c.signedOutput o = .ok output := by
  rcases hc with rfl | rfl <;> exact ⟨_, rfl⟩

theorem failsIn_flag (curve : Curve) : FailsIn Failure.IsKeyFailure (Sui.flag curve) := by
  unfold Sui.flag
  split
  · exact failsIn_ok _
  · exact failsIn_error (.inr rfl)

theorem IsBuiltIn.failsIn_assemble (hc : c.IsBuiltIn) (u : Unsigned c.Body)
    (signature : Signature) (publicKey : Bytes) :
    FailsIn (fun f => f.IsKeyFailure ∨ c.RefusesSender u f) (c.assemble u signature publicKey) := by
  rcases hc with rfl | rfl
  · have hflag : FailsIn (fun f => f.IsKeyFailure ∨ RefusesSender sui u f)
        (Sui.flag signature.curve) := (failsIn_flag _).imp fun _ => .inl
    exact (hflag.bind fun flag _ => failsIn_ok _).bind fun text _ => failsIn_ok _
  · have hassemble : FailsIn (fun f => f.IsKeyFailure ∨ RefusesSender starknet u f)
        (Starknet.assemble u signature) := by
      unfold Starknet.assemble
      dsimp only
      split
      · rename_i haddress
        split
        · exact failsIn_ok _
        · rename_i sender hsender
          split
          · exact failsIn_ok _
          · rename_i hgiven
            have hlate : lateSender? starknet u = some sender := by
              rw [lateSender?_starknet, if_pos haddress, hsender, Signer.given?_some,
                if_neg hgiven]
            refine FailsIn.bind (fun f hf => .inr ⟨sender, hlate, hf⟩) fun n hn => ?_
            have hformat := Starknet.Felt.format_eq (Starknet.isFelt_natCast_of_parse hn)
            exact (failsIn_of_eq_ok hformat).bind fun address _ => failsIn_ok _
      · exact failsIn_ok _
    exact hassemble

end Codec

/-- The standard table holds the built-in codecs. -/
theorem CodecTable.isBuiltIn_of_standard {tag : Value} {c : Codec}
    (h : CodecTable.standard.find tag = .ok c) : c.IsBuiltIn := by
  obtain ⟨name, -, h⟩ := bind_eq_ok_iff.1 h
  split at h
  · rename_i c' hlookup
    cases h
    unfold CodecTable.standard at hlookup
    simp only [List.lookup_cons, List.lookup_nil] at hlookup
    split at hlookup
    · exact .inl (Option.some.inj hlookup).symm
    · split at hlookup
      · exact .inr (Option.some.inj hlookup).symm
      · cases hlookup
  · cases h

namespace Signer

variable {s : Signer}

theorem IsBuiltIn.isBuiltIn_of_find {tag : Value} {c : Codec} (hs : s.IsBuiltIn)
    (h : s.codecs.find tag = .ok c) : c.IsBuiltIn := by
  rw [hs.codecs] at h
  exact CodecTable.isBuiltIn_of_standard h

/-! ## The steps that need the key -/

theorem failsIn_signWith {b : Backend} (hb : b.primitives.IsTame) (payload : Payload)
    (key : KeyHandle) : FailsIn Failure.IsKeyFailure (signWith b payload key).result := by
  unfold signWith
  rw [Traced.result_bind]
  refine (Backend.failsIn_publicKey hb key).bind fun publicKey _ => ?_
  rw [Traced.result_bind]
  exact (Backend.failsIn_sign hb payload (some key)).bind fun signature _ => failsIn_ok _

/-- Performing fails because of the key, or of a sender that is read only then. -/
theorem IsBuiltIn.failsIn_perform (hs : s.IsBuiltIn) {p : Plan}
    (hp : p.codec.IsBuiltIn) :
    FailsIn (fun f => f.IsKeyFailure ∨ p.codec.RefusesSender p.unsigned f)
      (s.perform p).result := by
  have hserves := hs.chains.serves hp.chain_eq
  have hderive := KeyService.failsIn_derive hs.isTame hserves hp.ofValue_chain p.seed p.path
    (.exactly p.curve)
  unfold perform
  rw [Traced.result_bind]
  refine (hderive.imp fun _ => .inl).bind fun key _ => ?_
  rw [Traced.result_bind, Traced.result_withKey]
  have hsign := failsIn_signWith (hs.isTame p.curve) p.unsigned.payload key
  refine (hsign.imp fun _ => .inl).bind fun signed _ => ?_
  simp only [Traced.result_bind, Traced.result_liftM]
  refine (hp.failsIn_assemble p.unsigned signed.2 signed.1).bind fun output _ => ?_
  obtain ⟨signedOutput, houtput⟩ := hp.exists_signedOutput output
  exact (failsIn_ok _).bind fun _ _ => failsIn_of_eq_ok houtput

/-- What a signed output is made of. -/
theorem perform_eq_ok {p : Plan} {output : SignedOutput}
    (h : (s.perform p).result = .ok output) :
    ∃ key publicKey signature body,
      (s.keys.derive s.chains p.seed (.text p.codec.chain) p.path (.exactly p.curve)).result =
        .ok key ∧
      ((s.keys.backend p.curve).publicKey key).result = .ok publicKey ∧
      ((s.keys.backend p.curve).sign p.unsigned.payload (some key)).1.result = .ok signature ∧
      p.codec.assemble p.unsigned signature publicKey = .ok body ∧
      p.codec.signedOutput body = .ok output := by
  unfold perform at h
  rw [Traced.result_bind] at h
  obtain ⟨key, hkey, h⟩ := bind_eq_ok_iff.1 h
  rw [Traced.result_bind, Traced.result_withKey] at h
  obtain ⟨signed, hsigned, h⟩ := bind_eq_ok_iff.1 h
  unfold signWith at hsigned
  simp only [Traced.result_bind, Traced.result_liftM] at h hsigned
  obtain ⟨publicKey, hpublicKey, hsigned⟩ := bind_eq_ok_iff.1 hsigned
  obtain ⟨signature, hsignature, hsigned⟩ := bind_eq_ok_iff.1 hsigned
  obtain rfl := Except.ok.inj hsigned
  obtain ⟨body, hbody, h⟩ := bind_eq_ok_iff.1 h
  exact ⟨key, publicKey, signature, body, hkey, hpublicKey, hsignature, hbody, h⟩

/-- Performing starts with asking for the key. -/
theorem derivation_mem_perform (s : Signer) (p : Plan) :
    Event.derivation ∈ (s.perform p).events := by
  have hderive : Event.derivation ∈
      (s.keys.derive s.chains p.seed (.text p.codec.chain) p.path (.exactly p.curve)).events := by
    unfold KeyService.derive
    rw [Traced.events_bind]
    exact List.mem_append_left _ List.mem_cons_self
  unfold perform
  rw [Traced.events_bind]
  exact List.mem_append_left _ hderive

end Signer

end Signatory
