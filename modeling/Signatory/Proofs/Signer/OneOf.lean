import Signatory.Proofs.Signer.Order

/-!
# One payload, stated one way

A request carries a payload for each of the built-in chains, and a payload states a transaction in
one of two ways. What has to be given is the payload of the request's own chain, stated in exactly
one way, and no payload of the other chain.

1. `Codec.IsBuiltIn.unsigned_of_not_statesOne`: the own payload is refused unless it states exactly
   one transaction.
2. `Signer.sign_alone`: the payload of the other chain is never looked at.
3. `Signer.sign_oneOf` says what follows for a signed output and for a refusal, and which requests
   are treated as they have to be.
-/

namespace Signatory

open Outcome

namespace Codec

/-! ## What has to be given -/

/-- The payload of the chain is set, and exactly one of its two ways to state a transaction is. -/
def StatesOne (r : Request) : Codec → Prop
  | sui => ∃ i, r.sui = some i ∧ i.raw.isSome ≠ i.transfer.isSome
  | starknet => ∃ i, r.starknet = some i ∧ i.raw.isSome ≠ i.transfer.isSome
  | extension _ => False

/-- The payload of the other built-in chain is not set. -/
def IsAlone (r : Request) : Codec → Prop
  | sui => r.starknet = none
  | starknet => r.sui = none
  | extension _ => False

/-- Exactly the matching payload is set, and states exactly one transaction. -/
def IsOneOf (c : Codec) (r : Request) : Prop :=
  c.StatesOne r ∧ c.IsAlone r

/-- A request without the payload of the other built-in chain. -/
def alone (r : Request) : Codec → Request
  | sui => { r with starknet := none }
  | starknet => { r with sui := none }
  | extension _ => r

/-- An output with a body in the field of the chain and nothing else. -/
def CarriesOnly (o : SignedOutput) : (c : Codec) → c.Output → Prop
  | sui, body => o = ⟨"SUI", some body, none, []⟩
  | starknet, body => o = ⟨"STARKNET", none, some body, []⟩
  | extension _, _ => False

variable {n : Sui.Nesting} {c : Codec} {r : Request}

/-- Two ways at once, or none, are refused. -/
theorem prepareOne_of_not_one {α β γ : Type} {raw : Option α} {transfer : Option β}
    {ofRaw : α → Traced γ} {ofTransfer : β → Traced γ} (h : ¬ raw.isSome ≠ transfer.isSome) :
    prepareOne c raw transfer ofRaw ofTransfer = .fail (.rawOrTransfer c.chain c.field) := by
  cases raw <;> cases transfer
  · rfl
  · exact absurd Bool.false_ne_true h
  · exact absurd (Ne.symm Bool.false_ne_true) h
  · rfl

theorem unsigned_of_not_one {own : Option c.Input} (hown : c.carried r = carriedInput own)
    (hone : ∀ i, own = some i → c.prepare n i = .fail (.rawOrTransfer c.chain c.field)) :
    ∃ f, (Signer.unsigned n c r).result = .error f ∧ f.code? = some .malformedIntent ∧
      f.field? = some c.field := by
  rw [Signer.result_unsigned, hown]
  cases own with
  | none => exact ⟨.noPayload c.chain c.field, rfl, rfl, rfl⟩
  | some i =>
    have hprepare := congrArg Traced.result (hone i rfl)
    exact ⟨.rawOrTransfer c.chain c.field, bind_of_eq_error hprepare _, rfl, rfl⟩

/-- A payload is refused unless it states exactly one transaction. -/
theorem IsBuiltIn.unsigned_of_not_statesOne (hc : c.IsBuiltIn) (h : ¬ c.StatesOne r) :
    ∃ f, (Signer.unsigned n c r).result = .error f ∧ f.code? = some .malformedIntent ∧
      f.field? = some c.field := by
  rcases hc with rfl | rfl
  · exact unsigned_of_not_one rfl fun i hi => prepareOne_of_not_one fun hone => h ⟨i, hi, hone⟩
  · exact unsigned_of_not_one rfl fun i hi => prepareOne_of_not_one fun hone => h ⟨i, hi, hone⟩

theorem IsBuiltIn.carriesOnly (hc : c.IsBuiltIn) {body : c.Output} {o : SignedOutput}
    (h : c.signedOutput body = .ok o) : c.CarriesOnly o body := by
  rcases hc with rfl | rfl <;> exact (Except.ok.inj h).symm

end Codec

namespace Signer

variable {s : Signer} {accounts : AccountProvider} {c : Codec} {r : Request}

/-! ## Signing -/

theorem result_sign_model (hfind : s.codecs.find (.text r.chain) = .ok c) :
    (s.sign accounts (.model r)).result =
      s.chains.curveFor (.text c.chain) (.ofName? r.curve) >>= fun curve =>
      (unsigned s.nesting c r).result >>= fun u =>
      accountPath accounts r c.chain curve u.sender >>= fun path =>
      accounts.seed >>= fun seed => (s.perform ⟨c, curve, u, path, seed⟩).result := by
  rw [sign_eq, Traced.result_bind, result_plan, validate_model, Traced.result_pure]
  simp only [bind_assoc]
  rw [bind_of_eq_ok rfl, bind_of_eq_ok hfind]
  rfl

/-- The payload of the other chain is never looked at. -/
theorem sign_alone (accounts : AccountProvider) (hc : c.IsBuiltIn)
    (hfind : s.codecs.find (.text r.chain) = .ok c) :
    s.sign accounts (.model (c.alone r)) = s.sign accounts (.model r) := by
  have hchain : (c.alone r).chain = r.chain := by rcases hc with rfl | rfl <;> rfl
  have hcurve : (c.alone r).curve = r.curve := by rcases hc with rfl | rfl <;> rfl
  have hunsigned : unsigned s.nesting c (c.alone r) = unsigned s.nesting c r := by
    rcases hc with rfl | rfl <;> rfl
  have hpath : accountPath accounts (c.alone r) = accountPath accounts r := by
    rcases hc with rfl | rfl <;> rfl
  unfold sign
  rw [validate_model, validate_model, pure_bind, pure_bind, hchain, hfind]
  simp only [Traced.liftM_ok_bind, hcurve, hunsigned, hpath]

/-- The output is assembled from what the payload of the chain states and a signature of it, and
carries nothing else. -/
def SignsOwn (s : Signer) (r : Request) (c : Codec) (o : SignedOutput) : Prop :=
  ∃ i u curve key publicKey signature body, c.inputOf (c.carried r) = .ok i ∧
    (c.prepare s.nesting i).result = .ok u ∧
    ((s.keys.backend curve).sign u.payload (some key)).1.result = .ok signature ∧
    c.assemble (withStated u r) signature publicKey = .ok body ∧ c.CarriesOnly o body

/-- A signed output comes from a payload that states one transaction. -/
theorem statesOne_of_sign {o : SignedOutput} (hc : c.IsBuiltIn)
    (hfind : s.codecs.find (.text r.chain) = .ok c)
    (h : (s.sign accounts (.model r)).result = .ok o) : c.StatesOne r ∧ s.SignsOwn r c o := by
  rw [result_sign_model hfind] at h
  obtain ⟨curve, -, h⟩ := bind_eq_ok_iff.1 h
  obtain ⟨stated, hstated, h⟩ := bind_eq_ok_iff.1 h
  obtain ⟨path, -, h⟩ := bind_eq_ok_iff.1 h
  obtain ⟨seed, -, h⟩ := bind_eq_ok_iff.1 h
  constructor
  · by_contra hone
    obtain ⟨f, hf, -⟩ := hc.unsigned_of_not_statesOne (n := s.nesting) hone
    rw [hf] at hstated
    cases hstated
  · rw [result_unsigned] at hstated
    obtain ⟨i, hi, hstated⟩ := bind_eq_ok_iff.1 hstated
    obtain ⟨u, hu, hstated⟩ := bind_eq_ok_iff.1 hstated
    obtain rfl := Except.ok.inj hstated
    obtain ⟨key, publicKey, signature, body, -, -, hsignature, hbody, ho⟩ := perform_eq_ok h
    exact ⟨i, u, curve, key, publicKey, signature, body, hi, hu, hsignature, hbody,
      hc.carriesOnly ho⟩

/-- A payload that does not state one transaction is refused, if the curve is not. -/
theorem sign_of_not_statesOne {curve : Curve} (accounts : AccountProvider) (hc : c.IsBuiltIn)
    (hfind : s.codecs.find (.text r.chain) = .ok c)
    (hcurve : s.chains.curveFor (.text c.chain) (.ofName? r.curve) = .ok curve)
    (hone : ¬ c.StatesOne r) : ∃ f, (s.sign accounts (.model r)).result = .error f ∧
      f.code? = some .malformedIntent ∧ f.field? = some c.field := by
  obtain ⟨f, hf, hcode, hfield⟩ := hc.unsigned_of_not_statesOne (n := s.nesting) hone
  refine ⟨f, ?_, hcode, hfield⟩
  rw [result_sign_model hfind, bind_of_eq_ok hcurve, bind_of_eq_error hf]

/-- A curve that is refused is refused first, as a failure of derivation. -/
theorem sign_of_not_curve {f : Failure} (accounts : AccountProvider) (hs : s.chains.IsReached)
    (hc : c.IsBuiltIn) (hfind : s.codecs.find (.text r.chain) = .ok c)
    (hcurve : s.chains.curveFor (.text c.chain) (.ofName? r.curve) = .error f) :
    (s.sign accounts (.model r)).result = .error f ∧ f.code? = some .derivationError := by
  refine ⟨?_, ChainTable.code_of_findCurve (hs.serves hc.chain_eq) hc.ofValue_chain hcurve⟩
  rw [result_sign_model hfind, bind_of_eq_error hcurve]

/-- What has to hold of one request: it is signed only if exactly the matching payload is set and
states one transaction, the output carries nothing but that, and any other request is refused as
malformed. -/
def Enforces (s : Signer) (accounts : AccountProvider) (c : Codec) (r : Request) : Prop :=
  (∀ o, (s.sign accounts (.model r)).result = .ok o → c.IsOneOf r ∧ s.SignsOwn r c o) ∧
    (¬ c.IsOneOf r → Outcome.code? (s.sign accounts (.model r)).result = some .malformedIntent)

/-- A request is treated as it has to be exactly if, where its own payload states one transaction,
a payload of the other chain makes no difference because it is malformed anyway, and where its own
payload does not, the curve is accepted. -/
theorem enforces_iff (hs : s.chains.IsReached) (hc : c.IsBuiltIn)
    (hfind : s.codecs.find (.text r.chain) = .ok c) : s.Enforces accounts c r ↔
      (c.StatesOne r → ¬ c.IsAlone r →
        Outcome.code? (s.sign accounts (.model (c.alone r))).result = some .malformedIntent) ∧
      (¬ c.StatesOne r →
        ∃ curve, s.chains.curveFor (.text c.chain) (.ofName? r.curve) = .ok curve) := by
  rw [sign_alone accounts hc hfind]
  constructor
  · rintro ⟨-, hrefuses⟩
    refine ⟨fun _ halone => hrefuses fun hone => halone hone.2, fun hone => ?_⟩
    cases hcurve : s.chains.curveFor (.text c.chain) (.ofName? r.curve) with
    | ok curve => exact ⟨curve, rfl⟩
    | error f =>
      obtain ⟨hf, hcode⟩ := sign_of_not_curve accounts hs hc hfind hcurve
      have hmalformed := hrefuses fun h => hone h.1
      rw [hf] at hmalformed
      cases hmalformed.symm.trans hcode
  · rintro ⟨hforeign, hcurve⟩
    constructor
    · intro o ho
      obtain ⟨hone, hsigns⟩ := statesOne_of_sign hc hfind ho
      refine ⟨⟨hone, ?_⟩, hsigns⟩
      by_contra halone
      have hmalformed := hforeign hone halone
      rw [ho] at hmalformed
      cases hmalformed
    · intro hnot
      by_cases hone : c.StatesOne r
      · exact hforeign hone fun halone => hnot ⟨hone, halone⟩
      · obtain ⟨curve, hcurve⟩ := hcurve hone
        obtain ⟨f, hf, hcode, -⟩ := sign_of_not_statesOne accounts hc hfind hcurve hone
        rw [hf]
        exact hcode

/-- On a built-in chain: what is signed is the one transaction that the own payload states; a
payload that states none or two is refused for its field, unless the curve is refused first; the
payload of the other chain is never looked at, and that decides which requests are treated as they
have to be. -/
theorem sign_oneOf (hs : s.chains.IsReached) (hc : c.IsBuiltIn)
    (hfind : s.codecs.find (.text r.chain) = .ok c) (accounts : AccountProvider) :
    (∀ o, (s.sign accounts (.model r)).result = .ok o → c.StatesOne r ∧ s.SignsOwn r c o) ∧
    (¬ c.StatesOne r → ∀ curve,
      s.chains.curveFor (.text c.chain) (.ofName? r.curve) = .ok curve →
      ∃ f, (s.sign accounts (.model r)).result = .error f ∧ f.code? = some .malformedIntent ∧
        f.field? = some c.field) ∧
    (∀ f, s.chains.curveFor (.text c.chain) (.ofName? r.curve) = .error f →
      (s.sign accounts (.model r)).result = .error f ∧ f.code? = some .derivationError) ∧
    s.sign accounts (.model (c.alone r)) = s.sign accounts (.model r) ∧
    (s.Enforces accounts c r ↔
      (c.StatesOne r → ¬ c.IsAlone r →
        Outcome.code? (s.sign accounts (.model (c.alone r))).result = some .malformedIntent) ∧
      (¬ c.StatesOne r →
        ∃ curve, s.chains.curveFor (.text c.chain) (.ofName? r.curve) = .ok curve)) :=
  ⟨fun _ ho => statesOne_of_sign hc hfind ho,
    fun hone _ hcurve => sign_of_not_statesOne accounts hc hfind hcurve hone,
    fun _ hcurve => sign_of_not_curve accounts hs hc hfind hcurve,
    sign_alone accounts hc hfind, enforces_iff hs hc hfind⟩

/-- A request to sign a bare hash. -/
def hashRequest : Request :=
  ⟨"STARKNET", none, some ⟨some "0x1", none⟩, none, none, some "m", []⟩

theorem sign_oneOf_hashRequest : lightSigner.chains.IsReached ∧ Codec.starknet.IsBuiltIn ∧
    lightSigner.codecs.find (.text hashRequest.chain) = .ok .starknet ∧
    ∃ o, (lightSigner.sign someProvider (.model hashRequest)).result = .ok o ∧
      Codec.starknet.StatesOne hashRequest ∧ lightSigner.SignsOwn hashRequest .starknet o := by
  have hfind : lightSigner.codecs.find (.text hashRequest.chain) = .ok .starknet := rfl
  obtain ⟨o, ho⟩ : ∃ o, (lightSigner.sign someProvider (.model hashRequest)).result = .ok o :=
    exists_of_isOk (by rw [lightSigner_eq]; decide +kernel)
  exact ⟨.standard, .inr rfl, hfind, o, ho,
    (sign_oneOf .standard (.inr rfl) hfind someProvider).1 o ho⟩

/-- The same request with a Sui transaction besides. -/
def doubleRequest : Request :=
  { hashRequest with sui := some ⟨some ⟨"AAAA", "AQID"⟩, none⟩ }

/-- The request is signed, though payloads of both chains are set. -/
theorem not_enforces_doubleRequest : ¬ Codec.starknet.IsOneOf doubleRequest ∧
    (∃ o, (lightSigner.sign someProvider (.model doubleRequest)).result = .ok o) ∧
    ¬ lightSigner.Enforces someProvider .starknet doubleRequest := by
  have hnot : ¬ Codec.starknet.IsOneOf doubleRequest := by
    rintro ⟨-, halone⟩
    cases halone
  obtain ⟨o, ho⟩ : ∃ o, (lightSigner.sign someProvider (.model doubleRequest)).result = .ok o :=
    exists_of_isOk (by rw [lightSigner_eq]; decide +kernel)
  exact ⟨hnot, ⟨o, ho⟩, fun h => hnot (h.1 o ho).1⟩

end Signer

end Signatory
