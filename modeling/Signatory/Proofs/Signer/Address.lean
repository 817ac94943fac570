import Signatory.Proofs.Keys.Signing
import Signatory.Proofs.Signer.Perform
import Signatory.Proofs.Sui.Signature

/-!
# Addresses are those of the keys that sign

A signer in use has a cache of public keys, from which it answers for addresses. Signing derives its
keys without it.

1. `Confirms.afterCalls`: whatever calls were made, the entries of the cache are right.
2. `agrees_at_accountPath`: the public key in a signed Sui transaction has the address that the
   signer states for the path that was signed at.
3. `agrees_of_sign`: this is the path that the request states, if it states one that is not empty.
-/

namespace Signatory

open Outcome KeyService

/-! ## A signer in use -/

/-- A signer and the cache that it has by now. -/
structure InUse where
  signer : Signer
  cache : Option Cache

namespace InUse

/-- What is asked of a signer besides signing: addresses, and what concerns its keys. -/
inductive Call where
  | address (accounts : AccountProvider) (chain : Value) (path : Option String)
      (choice : CurveChoice)
  | keys (action : KeyService.Action)

/-- A signer before any call. -/
def start (s : Signer) (settings : Settings) : InUse :=
  ⟨s, cacheOf settings⟩

/-- The signer and its cache after a call. -/
def afterCall (u : InUse) : Call → InUse
  | .address accounts chain path choice =>
    { u with cache := (u.signer.address u.cache accounts chain path choice).2 }
  | .keys action =>
    { signer := { u.signer with chains := tableAfter u.signer.chains action }
      cache := u.signer.keys.cacheAfter u.signer.chains u.cache action }

def afterCalls (u : InUse) (calls : List Call) : InUse :=
  calls.foldl afterCall u

end InUse

/-- The seed of a provider, unless it is refused. -/
def AccountProvider.seeds (accounts : AccountProvider) : List Bytes :=
  accounts.seed.toOption.toList

theorem AccountProvider.mem_seeds {accounts : AccountProvider} {seed : Bytes}
    (h : accounts.seed = .ok seed) : seed ∈ accounts.seeds := by
  unfold seeds
  rw [h]
  exact List.mem_singleton_self seed

namespace InUse

/-- The seeds that a call is about. -/
def Call.seeds : Call → List Bytes
  | .address accounts _ _ _ => accounts.seeds
  | .keys action => seedsOf [action]

@[simp] theorem keys_afterCall (u : InUse) (call : Call) :
    (u.afterCall call).signer.keys = u.signer.keys := by
  cases call <;> rfl

@[simp] theorem codecs_afterCall (u : InUse) (call : Call) :
    (u.afterCall call).signer.codecs = u.signer.codecs := by
  cases call <;> rfl

@[simp] theorem keys_afterCalls (u : InUse) (calls : List Call) :
    (u.afterCalls calls).signer.keys = u.signer.keys := by
  induction calls generalizing u with
  | nil => rfl
  | cons call calls ih => exact (ih (u.afterCall call)).trans (keys_afterCall u call)

@[simp] theorem codecs_afterCalls (u : InUse) (calls : List Call) :
    (u.afterCalls calls).signer.codecs = u.signer.codecs := by
  induction calls generalizing u with
  | nil => rfl
  | cons call calls ih => exact (ih (u.afterCall call)).trans (codecs_afterCall u call)

/-! ## The cache stays right -/

/-- The entries of the cache are right for some seeds. -/
def Confirms (u : InUse) (seeds : List Bytes) : Prop :=
  ∀ c ∈ u.cache, u.signer.keys.Confirms seeds c

variable {u : InUse} {seeds : List Bytes}

/-- An address is that of the public key on the curve that is used for the chain. -/
theorem address_eq {s : Signer} {cache : Option Cache} {accounts : AccountProvider}
    {chain : Value} {path : Option String} {choice : CurveChoice} {codec : Codec} {curve : Curve}
    {seed : Bytes} (hcodec : s.codecs.find chain = .ok codec)
    (hcurve : s.chains.curveFor (.text codec.chain) choice = .ok curve)
    (hseed : accounts.seed = .ok seed) :
    s.address cache accounts chain path choice =
      let answer :=
        s.keys.publicKey s.chains cache seed (.text codec.chain) path (.exactly curve)
      (do codec.address (← answer.1) curve, answer.2) := by
  unfold Signer.address
  rw [bind_of_eq_ok hcodec, bind_of_eq_ok hcurve, bind_of_eq_ok hseed]
  rfl

/-- Asking for an address leaves the cache as it is, or as a question for a public key does. -/
theorem cache_of_address (s : Signer) (cache : Option Cache) (accounts : AccountProvider)
    (chain : Value) (path : Option String) (choice : CurveChoice) :
    (s.address cache accounts chain path choice).2 = cache ∨
      ∃ seed ∈ accounts.seeds, ∃ tag curve,
        (s.address cache accounts chain path choice).2 =
          (s.keys.publicKey s.chains cache seed tag path (.exactly curve)).2 := by
  cases hcodec : s.codecs.find chain with
  | error f =>
    unfold Signer.address
    rw [bind_of_eq_error hcodec]
    exact .inl rfl
  | ok codec =>
    cases hcurve : s.chains.curveFor (.text codec.chain) choice with
    | error f =>
      unfold Signer.address
      rw [bind_of_eq_ok hcodec, bind_of_eq_error hcurve]
      exact .inl rfl
    | ok curve =>
      cases hseed : accounts.seed with
      | error f =>
        unfold Signer.address
        rw [bind_of_eq_ok hcodec, bind_of_eq_ok hcurve, bind_of_eq_error hseed]
        exact .inl rfl
      | ok seed =>
        rw [address_eq hcodec hcurve hseed]
        exact .inr ⟨seed, AccountProvider.mem_seeds hseed, _, curve, rfl⟩

/-- A call keeps the cache right. -/
theorem Confirms.afterCall (h : u.Confirms seeds) (hsep : Separates u.signer.keys.fingerprint seeds)
    {call : Call} (hcall : ∀ seed ∈ call.seeds, seed ∈ seeds) :
    (u.afterCall call).Confirms seeds := by
  cases call with
  | address accounts chain path choice =>
    unfold Confirms InUse.afterCall
    dsimp only
    rcases cache_of_address u.signer u.cache accounts chain path choice with
      hsame | ⟨seed, hseed, _, _, hasked⟩
    · rw [hsame]
      exact h
    · rw [hasked]
      exact (publicKey_spec h hsep (hcall seed hseed) _ _ _ _).2
  | keys action => exact KeyService.Confirms.cacheAfter h hsep _ hcall

theorem Confirms.afterCalls (h : u.Confirms seeds)
    (hsep : Separates u.signer.keys.fingerprint seeds) {calls : List Call}
    (hcalls : ∀ call ∈ calls, ∀ seed ∈ call.seeds, seed ∈ seeds) :
    (u.afterCalls calls).Confirms seeds := by
  induction calls generalizing u with
  | nil => exact h
  | cons call calls ih =>
    rw [List.forall_mem_cons] at hcalls
    exact ih (h.afterCall hsep hcalls.1) (by rwa [keys_afterCall]) hcalls.2

theorem confirms_start {s : Signer} {settings : Settings}
    (h : 0 < settings.cacheLifetime → 1 ≤ settings.cacheSize) :
    (start s settings).Confirms seeds := by
  by_cases hon : 0 < settings.cacheLifetime
  · exact confirms_of_cacheOf (h hon)
  · have hoff : cacheOf settings = none := if_neg hon
    unfold start Confirms
    rw [hoff]
    exact fun _ hc => nomatch hc

/-! ## Agreement -/

/-- A signed Sui transaction holds a signature of 64 bytes on the curve that is used, and a public
key whose address is the one that the signer states. -/
def Agrees (u : InUse) (accounts : AccountProvider) (path : Option String) (choice : CurveChoice)
    (output : SignedOutput) : Prop :=
  ∃ signed curve signature publicKey address, output.sui = some signed ∧
    u.signer.chains.curveFor (.text "SUI") choice = .ok curve ∧
    Sui.parseSignature signed.signature = .ok (⟨curve, signature⟩, publicKey) ∧
    signature.length = 64 ∧ Sui.addressOf publicKey curve = .ok address ∧
    (u.signer.address u.cache accounts (.text "SUI") path choice).1.result = .ok address

/-- A signed transaction agrees with one address only. -/
theorem Agrees.result_eq {accounts : AccountProvider} {path path' : Option String}
    {choice : CurveChoice} {output : SignedOutput} (h : u.Agrees accounts path choice output)
    (h' : u.Agrees accounts path' choice output) :
    (u.signer.address u.cache accounts (.text "SUI") path choice).1.result =
      (u.signer.address u.cache accounts (.text "SUI") path' choice).1.result := by
  obtain ⟨signed, curve, signature, publicKey, address, hsigned, -, hparse, -, haddress, hstated⟩ :=
    h
  obtain ⟨signed', curve', signature', publicKey', address', hsigned', -, hparse', -, haddress',
    hstated'⟩ := h'
  obtain rfl := Option.some.inj (hsigned.symm.trans hsigned')
  have hsame := Except.ok.inj (hparse.symm.trans hparse')
  injection hsame with hsignature hkey
  injection hsignature with hcurve
  subst hcurve hkey
  rw [hstated, hstated', ← haddress, ← haddress']

/-- The public key that is derived for an account is the one whose address is stated. -/
theorem result_address {accounts : AccountProvider} {seed publicKey : Bytes}
    {path : Option String} {choice : CurveChoice} {curve : Curve} (h : u.Confirms seeds)
    (hsep : Separates u.signer.keys.fingerprint seeds) (hgiven : accounts.seed = .ok seed)
    (hseed : seed ∈ seeds) (hcodec : u.signer.codecs.find (.text "SUI") = .ok .sui)
    (hcurve : u.signer.chains.curveFor (.text "SUI") choice = .ok curve)
    (hkey : u.signer.keys.derivedPublicKey u.signer.chains seed (.text "SUI") path
      (.exactly curve) = .ok publicKey) :
    (u.signer.address u.cache accounts (.text "SUI") path choice).1.result =
      Sui.addressOf publicKey curve := by
  have hanswer := (publicKey_spec h hsep hseed u.signer.chains (.text "SUI") path
    (.exactly curve)).1.trans hkey
  rw [address_eq hcodec hcurve hgiven]
  dsimp only
  rw [Traced.result_bind]
  exact bind_of_eq_ok hanswer _

/-- A plan on Sui that is performed agrees with the address at its path. -/
theorem agrees_of_plan {accounts : AccountProvider} {p : Plan} {choice : CurveChoice}
    {output : SignedOutput} (h : u.Confirms seeds)
    (hsep : Separates u.signer.keys.fingerprint seeds) (hgiven : accounts.seed = .ok p.seed)
    (hseed : p.seed ∈ seeds) (hkeys : u.signer.keys.IsRegular)
    (hcodec : u.signer.codecs.find (.text "SUI") = .ok .sui) (hp : p.codec = .sui)
    (hcurve : u.signer.chains.curveFor (.text "SUI") choice = .ok p.curve)
    (hperform : (u.signer.perform p).result = .ok output) :
    u.Agrees accounts p.path choice output := by
  obtain ⟨key, publicKey, signature, body, hderive, hpublicKey, hsignature, hbody, houtput⟩ :=
    Signer.perform_eq_ok hperform
  obtain ⟨c, curve, unsigned, path, seed⟩ := p
  dsimp only at hgiven hseed hp hcurve body hderive hpublicKey hsignature hbody houtput
  subst hp
  obtain ⟨hsame, message, secret, hvalue⟩ := Backend.sign_eq_ok hsignature
  have hshort := hkeys.short curve message secret _ hvalue
  rw [hkeys.curve_eq] at hsame
  obtain ⟨signedCurve, value⟩ := signature
  dsimp only at hsame hshort
  obtain rfl : curve = signedCurve := hsame.symm
  obtain ⟨text, htext, hbody⟩ := bind_eq_ok_iff.1 hbody
  obtain rfl := Except.ok.inj hbody
  obtain rfl := Except.ok.inj houtput
  obtain ⟨flag, hflag, -⟩ := bind_eq_ok_iff.1 htext
  have haddress : Sui.addressOf publicKey curve =
      .ok (Sui.Address.format (Blake2b.digest256 (flag :: publicKey))) := bind_of_eq_ok hflag _
  have hstated := result_address h hsep hgiven hseed hcodec hcurve
    (derivedPublicKey_of_derive hderive hpublicKey)
  exact ⟨_, curve, value, publicKey, _, rfl, hcurve,
    Sui.parseSignature_of_serialize hshort htext, hshort, haddress, hstated.trans haddress⟩

section Signing

variable {s : Signer} {settings : Settings} {calls : List Call} {accounts : AccountProvider}
  {request : RequestLike} {r : Request} {i : Sui.Input} {output : SignedOutput}

/-- A Sui request is signed at an account path, and the signer states the address at this path. -/
theorem agrees_at_accountPath (hkeys : s.keys.IsRegular)
    (hcodec : s.codecs.find (.text "SUI") = .ok .sui)
    (hroom : 0 < settings.cacheLifetime → 1 ≤ settings.cacheSize)
    (hsep : Separates s.keys.fingerprint (accounts.seeds ++ calls.flatMap Call.seeds))
    (hu : u = (start s settings).afterCalls calls) (hr : u.signer.Carries request r .sui i)
    (hsign : (u.signer.sign accounts request).result = .ok output) :
    ∃ curve sender path, Signer.accountPath accounts r "SUI" curve sender = .ok path ∧
      (∀ text, Signer.given? r.sender = some text → sender = some text) ∧
      u.Agrees accounts path (.ofName? r.curve) output := by
  have husedKeys : u.signer.keys = s.keys := hu ▸ keys_afterCalls (start s settings) calls
  have husedCodecs : u.signer.codecs = s.codecs := hu ▸ codecs_afterCalls (start s settings) calls
  have hconfirms : u.Confirms (accounts.seeds ++ calls.flatMap Call.seeds) := by
    rw [hu]
    refine (confirms_start hroom).afterCalls hsep fun call hcall seed hseed => ?_
    exact List.mem_append_right _ (List.mem_flatMap.2 ⟨call, hcall, hseed⟩)
  rw [Signer.sign_eq, Traced.result_bind] at hsign
  obtain ⟨p, hp, hperform⟩ := bind_eq_ok_iff.1 hsign
  obtain ⟨r', i', unsigned, hcarries, hcurve, -, hstated, hpath, hgiven⟩ :=
    Signer.plan_eq_ok_iff.1 hp
  obtain rfl := Except.ok.inj (hcarries.valid.symm.trans hr.valid)
  have hsui : p.codec = .sui := Except.ok.inj (hcarries.found.symm.trans hr.found)
  have hchain : p.codec.chain = "SUI" := congrArg Codec.chain hsui
  rw [hchain] at hcurve hpath
  refine ⟨p.curve, p.unsigned.sender, p.path, hpath, fun text htext => ?_, ?_⟩
  · rw [hstated]
    unfold Signer.withStated
    rw [htext]
    rfl
  · exact agrees_of_plan hconfirms (by rwa [husedKeys]) hgiven
      (List.mem_append_left _ (AccountProvider.mem_seeds hgiven)) (by rwa [husedKeys])
      (by rwa [husedCodecs]) hsui hcurve hperform

/-- A Sui request that states its account path is signed by the key whose address the signer states
for this path. -/
theorem agrees_of_sign {path : String} (hkeys : s.keys.IsRegular)
    (hcodec : s.codecs.find (.text "SUI") = .ok .sui)
    (hroom : 0 < settings.cacheLifetime → 1 ≤ settings.cacheSize)
    (hsep : Separates s.keys.fingerprint (accounts.seeds ++ calls.flatMap Call.seeds))
    (hu : u = (start s settings).afterCalls calls) (hr : u.signer.Carries request r .sui i)
    (hpath : r.accountPath = some path) (hne : path ≠ "")
    (hsign : (u.signer.sign accounts request).result = .ok output) :
    u.Agrees accounts (some path) (.ofName? r.curve) output := by
  obtain ⟨curve, sender, path', hat, -, hagrees⟩ :=
    agrees_at_accountPath hkeys hcodec hroom hsep hu hr hsign
  have hgiven : Signer.given? r.accountPath = some path := by
    rw [hpath, Signer.given?_some, if_neg]
    rwa [String.isEmpty_iff]
  unfold Signer.accountPath at hat
  rw [hgiven] at hat
  obtain rfl := Except.ok.inj hat
  exact hagrees

end Signing

/-! ## A light signer -/

/-- Schemes that take little computing. The secret at a path is the text of the path, it is its own
public key, and all signatures are alike. -/
def pathSchemes : Schemes :=
  { Schemes.standard with
    derive := fun _ _ path => some (Bytes.ascii path)
    ed25519 := ⟨some, fun _ _ => some (List.replicate 64 0), fun _ _ _ => true⟩ }

def pathSigner : Signer := ⟨.ofSchemes pathSchemes, .standard, .standard, .standard⟩

theorem isRegular_pathSigner : pathSigner.keys.IsRegular := by
  refine isRegular_ofSchemes fun _ _ value h => ?_
  rw [← Option.some.inj h, List.length_replicate]

/-- Accounts with one registered sender. -/
def someAccounts : AccountProvider :=
  Accounts.provider ⟨[1], false, [(("SUI", "0xab"), "m/1")]⟩ .standard

/-- Accounts without registrations, for another seed. -/
def otherAccounts : AccountProvider :=
  Accounts.provider ⟨[2], false, []⟩ .standard

/-- A raw transaction of the registered sender. -/
def rawRequest (path : String) : Request :=
  ⟨"SUI", some ⟨some ⟨"AAAA", "AQID"⟩, none⟩, none, some "0xab", none, some path, []⟩

theorem carries_rawRequest (s : Signer) (path : String)
    (hcodec : s.codecs.find (.text "SUI") = .ok .sui) :
    s.Carries (.model (rawRequest path)) (rawRequest path) .sui ⟨some ⟨"AAAA", "AQID"⟩, none⟩ :=
  ⟨rfl, hcodec, rfl⟩

/-- A provider that has no seed to give. -/
def lockedAccounts : AccountProvider :=
  { someAccounts with seed := .error .emptySeed }

/-- Addresses and public keys that are asked for, with a cleared cache in between. One provider
refuses its seed. -/
def someCalls : List Call :=
  [.address someAccounts (.text " sui ") none .unspecified,
    .keys (.publicKey [2] (.text "SUI") (some "m/2") (.named "ed25519")), .keys .clear,
    .keys (.publicKey [1] (.text "SUI") (some "m/2") .unspecified),
    .address lockedAccounts (.text "SUI") none .unspecified,
    .address otherAccounts (.text "SUI") (some "m/2") (.named "p256")]

theorem agrees_of_sign_rawRequest : ∃ u output,
    u = (start pathSigner smallCache).afterCalls someCalls ∧
    (u.signer.sign someAccounts (.model (rawRequest "m/2"))).result = .ok output ∧
    u.Agrees someAccounts (some "m/2") .unspecified output := by
  have hseeds : ∀ seed ∈ someAccounts.seeds ++ someCalls.flatMap Call.seeds,
      seed = [1] ∨ seed = [2] := by decide
  have hne : pathSigner.keys.fingerprint [1] ≠ pathSigner.keys.fingerprint [2] := by
    decide +kernel
  have hsep : Separates pathSigner.keys.fingerprint
      (someAccounts.seeds ++ someCalls.flatMap Call.seeds) := by
    intro a ha b hb h
    rcases hseeds a ha with rfl | rfl <;> rcases hseeds b hb with rfl | rfl
    · rfl
    · exact absurd h hne
    · exact absurd h.symm hne
    · rfl
  obtain ⟨output, houtput⟩ : ∃ output, (((start pathSigner smallCache).afterCalls
      someCalls).signer.sign someAccounts (.model (rawRequest "m/2"))).result = .ok output :=
    exists_of_isOk (by decide +kernel)
  refine ⟨_, output, rfl, houtput, ?_⟩
  exact agrees_of_sign isRegular_pathSigner rfl (by decide) hsep rfl
    (carries_rawRequest _ "m/2" rfl) rfl (by decide) houtput

/-- Settings for a cache that has no room for any public key. -/
def noRoom : Settings := { cacheSize := 0 }

/-- A cache without room lets no address be stated. An account path that is empty counts as none
when a request is signed, so the registered one is used, but an address is that at the default
path. -/
theorem not_agrees :
    (∃ output, (pathSigner.sign someAccounts (.model (rawRequest "m/2"))).result = .ok output ∧
      ¬ (start pathSigner noRoom).Agrees someAccounts (some "m/2") .unspecified output) ∧
    ∃ output, (pathSigner.sign someAccounts (.model (rawRequest ""))).result = .ok output ∧
      ¬ (start pathSigner smallCache).Agrees someAccounts (some "") .unspecified output := by
  obtain ⟨output, houtput⟩ : ∃ output,
      (pathSigner.sign someAccounts (.model (rawRequest "m/2"))).result = .ok output :=
    exists_of_isOk (by decide +kernel)
  obtain ⟨output', houtput'⟩ : ∃ output,
      (pathSigner.sign someAccounts (.model (rawRequest ""))).result = .ok output :=
    exists_of_isOk (by decide +kernel)
  refine ⟨⟨output, houtput, ?_⟩, output', houtput', ?_⟩
  · rintro ⟨-, -, -, -, address, -, -, -, -, -, hstated⟩
    have hrefused : (pathSigner.address (cacheOf noRoom) someAccounts (.text "SUI") (some "m/2")
        .unspecified).1.result.isOk = false := by
      decide +kernel
    have hok : (pathSigner.address (cacheOf noRoom) someAccounts (.text "SUI") (some "m/2")
        .unspecified).1.result.isOk = true := congrArg Except.isOk hstated
    rw [hrefused] at hok
    cases hok
  · intro hdefault
    have hu : start pathSigner smallCache = (start pathSigner smallCache).afterCalls [] := rfl
    have hsep : Separates pathSigner.keys.fingerprint
        (someAccounts.seeds ++ ([] : List Call).flatMap Call.seeds) :=
      fun a ha b hb _ => (List.mem_singleton.1 ha).trans (List.mem_singleton.1 hb).symm
    obtain ⟨curve, sender, path, hpath, hsender, hregistered⟩ := agrees_at_accountPath
      isRegular_pathSigner rfl (by decide) hsep hu (carries_rawRequest _ "" rfl) houtput'
    obtain rfl := hsender "0xab" rfl
    have hat : Signer.accountPath someAccounts (rawRequest "") "SUI" curve (some "0xab") =
        .ok (some "m/1") := rfl
    obtain rfl := Except.ok.inj (hat.symm.trans hpath)
    have hdiffer : (pathSigner.address (cacheOf smallCache) someAccounts (.text "SUI") (some "")
        .unspecified).1.result.toOption ≠ (pathSigner.address (cacheOf smallCache) someAccounts
          (.text "SUI") (some "m/1") .unspecified).1.result.toOption := by
      decide +kernel
    exact hdiffer (congrArg Except.toOption (hdefault.result_eq hregistered))

end InUse

end Signatory
