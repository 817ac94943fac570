import Signatory.Proofs.Keys.Lifetime
import Signatory.Proofs.Signer.Plan

/-!
# Key handles do not outlive a call

Signing makes its one handle after the plan is made, and uses it through `Traced.withKey` only
(`Signer.erasesKey_sign`). `handles_erased` says so of each call that makes a handle.
-/

namespace Signatory

open Traced

namespace Signer

theorem leavesHandles_signWith (b : Backend) (payload : Payload) (key : KeyHandle) :
    (signWith b payload key).LeavesHandles := by
  refine (b.leavesHandles_publicKey key).bind fun publicKey => ?_
  exact (b.leavesHandles_sign payload (some key)).bind fun _ => leavesHandles_pure _

theorem erasesKey_perform (s : Signer) (p : Plan) : (s.perform p).ErasesKey := by
  have hopens := s.keys.opens_derive s.chains p.seed (.text p.codec.chain) p.path (.exactly p.curve)
  unfold perform
  rw [← LawfulMonad.bind_assoc]
  refine (hopens.erasesKey_withKey (leavesHandles_signWith _ _)).bind fun _ => ?_
  refine (leavesHandles_liftM _).bind fun _ => (leavesHandles_debug _ _).bind fun _ => ?_
  exact leavesHandles_liftM _

theorem erasesKey_sign (s : Signer) (accounts : AccountProvider) (request : RequestLike) :
    (s.sign accounts request).ErasesKey := by
  rw [sign_eq]
  exact (isQuiet_plan s accounts request).leavesHandles.bind_erasesKey fun p =>
    s.erasesKey_perform p

end Signer

/-- The handles that a call makes are erased when it ends, however it ends: the one handle, if any,
of signing, that of a public key, and that of a secret which is no key of its curve. A handle that
is released stays so, and every later use of it is refused. -/
theorem handles_erased :
    (∀ (s : Signer) (accounts : AccountProvider) (request : RequestLike),
      (∀ key ∈ (s.sign accounts request).handles, key.IsErased) ∧
        (s.sign accounts request).handles.length ≤ 1) ∧
    (∀ (s : KeyService) (t : ChainTable) (cache : Option Cache) (seed : Bytes) (chain : Value)
        (path : Option String) (choice : CurveChoice),
      ∀ key ∈ (s.publicKey t cache seed chain path choice).1.handles, key.IsErased) ∧
    (∀ (b : Backend) (secret : Bytes) (f : Failure),
      (b.publicKey (.make b.curve "" secret)).result = .error f →
      f.code? = some .signingFailure →
        (b.keyFromSecret secret).result = .error (.invalidPrivateKey b.curve f) ∧
          ∀ key ∈ (b.keyFromSecret secret).handles, key.IsErased) ∧
    (∀ (k : KeyHandle) (uses : List KeyHandle.Use), k.released = true →
      k.afterUses uses = k ∧ ∀ (b : Backend) (payload : Payload),
        (b.publicKey (k.afterUses uses)).RefusesKey ∧
          (b.sign payload (some (k.afterUses uses))).1.RefusesKey) := by
  refine ⟨fun s accounts request => ?_, fun s t cache seed chain path choice => ?_,
    fun b secret f hf hcode => ?_, fun k uses hk => ?_⟩
  · have herases := s.erasesKey_sign accounts request
    exact ⟨herases.isErased, herases.length_le⟩
  · exact (s.erasesKey_publicKey t cache seed chain path choice).isErased
  · obtain ⟨hresult, hhandles⟩ := Backend.keyFromSecret_of_error hf hcode
    refine ⟨hresult, ?_⟩
    rw [hhandles]
    exact List.forall_mem_singleton.2 (KeyHandle.isErased_release rfl)
  · have hsame := KeyHandle.afterUses_of_released hk uses
    rw [hsame]
    exact ⟨rfl, fun b payload => ⟨b.refusesKey_publicKey hk, b.refusesKey_sign payload hk⟩⟩

/-- A secret that is too large for a key. -/
def largeSecret : Bytes :=
  List.replicate 32 255

/-- The handle of the secret, after its release. -/
def largeKey : KeyHandle :=
  (KeyHandle.make .secp256k1 "" largeSecret).release

/-- What is then tried with the handle, on its curve and on another. -/
def laterUses : List KeyHandle.Use :=
  [.publicKey (Schemes.standard.backend .secp256k1),
    .sign (Schemes.standard.backend .secp256k1) (.ofMessage [1, 2, 3]), .release,
    .sign (Schemes.standard.backend .stark) (.ofMessage []),
    .publicKey (Schemes.standard.backend .p256)]

theorem handles_erased_largeKey :
    (((Schemes.standard.backend .secp256k1).publicKey (.make .secp256k1 "" largeSecret)).result =
        .error (.secretOutOfRange .secp256k1) ∧
      ((Schemes.standard.backend .secp256k1).keyFromSecret largeSecret).result =
        .error (.invalidPrivateKey .secp256k1 (.secretOutOfRange .secp256k1)) ∧
      ∀ key ∈ ((Schemes.standard.backend .secp256k1).keyFromSecret largeSecret).handles,
        key.IsErased) ∧
    largeKey.released = true ∧ largeKey.buffer ≠ largeSecret ∧
    largeKey.afterUses laterUses = largeKey ∧
    ((Schemes.standard.backend .secp256k1).publicKey (largeKey.afterUses laterUses)).RefusesKey ∧
    ((Schemes.standard.backend .secp256k1).sign (.ofMessage [4])
      (some (largeKey.afterUses laterUses))).1.RefusesKey := by
  have hcheck : ((Schemes.standard.backend .secp256k1).publicKey
      (.make .secp256k1 "" largeSecret)).result = .error (.secretOutOfRange .secp256k1) := rfl
  have hreleased : largeKey.released = true := rfl
  obtain ⟨-, -, hsecret, hkey⟩ := handles_erased
  obtain ⟨hsame, hrefuses⟩ := hkey largeKey laterUses hreleased
  obtain ⟨hpublic, hsign⟩ := hrefuses (Schemes.standard.backend .secp256k1) (.ofMessage [4])
  exact ⟨⟨hcheck, hsecret _ largeSecret _ hcheck rfl⟩, hreleased, by decide, hsame, hpublic, hsign⟩

end Signatory
