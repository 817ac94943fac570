import Signatory.Accounts
import Signatory.Proofs.Signer.Perform

/-!
# How signing fails

`IsBuiltIn.signs_or_refuses`: signing on the built-in chains gives an output or a refusal, whatever
the request, unless a number of too many digits is read (`ReadsLong`), or the chain's tag or the type
tags in a transaction are nested too deep (`NestsDeep`).

The two stages are followed in turn: `failsIn_plan` for the steps before the key is derived,
`failsIn_perform` for the others.
-/

namespace Signatory

open Outcome

/-! ## Payloads -/

namespace Codec

variable {c : Codec}

/-- A number that a payload states in full has too many digits. -/
def StatesLong : (c : Codec) → c.Input → Prop
  | sui, i => ∃ t, i.transfer = some t ∧ HasLong t.numbers
  | starknet, i =>
    (∃ t, i.transfer = some t ∧ Starknet.HaveLong t.numerals) ∨
      ∃ raw m, i.raw = some raw ∧ Starknet.IsMulticall raw m ∧ Starknet.HaveLong m.numerals
  | extension _, _ => False

/-- The payload is a multicall whose layout is as long as the field is large. -/
def IsVast : (c : Codec) → c.Input → Prop
  | starknet, i => ∃ raw m, i.raw = some raw ∧ Starknet.IsMulticall raw m ∧ m.IsVast
  | sui, _ | extension _, _ => False

/-- The payload is a raw transaction that is given up. -/
def NestsDeep (n : Sui.Nesting) : (c : Codec) → c.Input → Prop
  | sui, i => ∃ r, i.raw = some r ∧ Sui.GivesUp n r
  | starknet, _ | extension _, _ => False

theorem failsIn_inputOf {long : Prop} (i : Carried c.Input) :
    FailsIn (Failure.RefusesUnless long) (c.inputOf i) := by
  unfold inputOf
  split
  · exact failsIn_error (.inl rfl)
  · exact failsIn_ok _
  · exact failsIn_error (.inl rfl)
  · split
    · exact failsIn_ok _
    · exact failsIn_error (.inl rfl)

/-- Exactly one of the two ways to state a transaction is taken. -/
theorem failsIn_prepareOne {α β γ : Type} {raw : Option α} {transfer : Option β}
    {ofRaw : α → Traced γ} {ofTransfer : β → Traced γ} {P : Failure → Prop}
    (hneither : P (.rawOrTransfer c.chain c.field))
    (hraw : ∀ r, raw = some r → FailsIn P (ofRaw r).result)
    (htransfer : ∀ t, transfer = some t → FailsIn P (ofTransfer t).result) :
    FailsIn P (prepareOne c raw transfer ofRaw ofTransfer).result := by
  unfold prepareOne
  split
  · rw [Traced.result_bind]
    exact (failsIn_ok _).bind fun _ _ => hraw _ rfl
  · exact htransfer _ rfl
  · exact failsIn_error hneither

theorem IsBuiltIn.failsIn_prepare (n : Sui.Nesting) (hc : c.IsBuiltIn) {i : c.Input}
    (hsize : ¬ c.IsVast i) : FailsIn (fun f => f.RefusesUnless (c.StatesLong i) ∨
      f = .nestedTooDeep ∧ c.NestsDeep n i) (c.prepare n i).result := by
  rcases hc with rfl | rfl
  · refine failsIn_prepareOne (.inl (.inl rfl)) (fun r hr f hf => ?_) fun t ht => ?_
    · rcases Sui.cases_of_prepareRaw hf with ⟨-, h⟩ | ⟨-, -, h⟩ | ⟨hdeep, rfl⟩
      · exact .inl (.inl (Failure.isRefusal_of_code h.1))
      · exact .inl (.inl (Failure.isRefusal_of_code h.1))
      · exact .inr ⟨rfl, r, hr, hdeep⟩
    · have htransfer := (Sui.failsIn_prepareTransfer n t).weaken fun h =>
        (⟨t, ht, h⟩ : StatesLong sui i)
      exact htransfer.imp fun _ => .inl
  · refine failsIn_prepareOne (.inl (.inl rfl)) (fun raw hraw => ?_) fun t ht => ?_
    · have hvast : ∀ m, Starknet.IsMulticall raw m → ¬ m.IsVast :=
        fun m hm h => hsize ⟨raw, m, hraw, hm, h⟩
      have hprepared : FailsIn (Failure.RefusesUnless (StatesLong starknet i))
          (Starknet.prepareRaw raw).result := by
        refine (Starknet.failsIn_prepareRaw hvast).weaken ?_
        rintro ⟨m, hm, h⟩
        exact .inr ⟨raw, m, hraw, hm, h⟩
      exact hprepared.imp fun _ => .inl
    · have htransfer := (Starknet.failsIn_prepareTransfer t).weaken fun h =>
        (.inl ⟨t, ht, h⟩ : StatesLong starknet i)
      exact htransfer.imp fun _ => .inl

end Codec

/-! ## Tables -/

namespace CodecTable

theorem failsIn_find (t : CodecTable) (tag : Value) :
    FailsIn (fun f => f.isRefusal = true ∨
      Value.IsLiteralFault tag.integers tag.calls Value.literalRoom f) (t.find tag) := by
  refine ((Tag.failsIn_ofValue tag).imp fun _ => .inr).bind fun name _ => ?_
  split
  · exact failsIn_ok _
  · exact failsIn_error (.inl rfl)

theorem failsIn_find_text {long : Prop} (t : CodecTable) (chain : String) :
    FailsIn (Failure.RefusesUnless long) (t.find (.text chain)) := by
  refine (failsIn_find t _).imp fun f hf => ?_
  rcases hf with hrefusal | ⟨-, hlong⟩ | ⟨-, hdeep⟩
  · exact .inl hrefusal
  · exact absurd hlong not_hasLong_nil
  · have hroom : (Value.text chain).calls ≤ Value.literalRoom := by
      rw [Value.calls]
      decide
    exact absurd hdeep (Nat.not_lt.2 hroom)

end CodecTable

/-! ## Planning -/

namespace Signer

variable {s : Signer} {request : RequestLike}

/-- A number of too many digits is read: in the tag of an untyped request, in the payload, or as the
sender for whom a bare hash is signed. -/
def ReadsLong (s : Signer) (request : RequestLike) : Prop :=
  (∃ fields, request = .value (.object fields) ∧
    HasLong ((fields.lookup "chain").getD .null).integers) ∨
  (∃ r c i, s.Carries request r c i ∧ c.StatesLong i) ∨
  ∃ r raw sender, s.SignsHash request r raw sender ∧ Starknet.Felt.IsLong sender

/-- The payload is a multicall whose layout is as long as the field is large. -/
def IsVast (s : Signer) (request : RequestLike) : Prop :=
  ∃ r c i, s.Carries request r c i ∧ c.IsVast i

/-- The tag of an untyped request is nested too deep for a literal, or the payload is a raw Sui
transaction whose type tags are nested too deep. -/
def NestsDeep (s : Signer) (request : RequestLike) : Prop :=
  (∃ fields, request = .value (.object fields) ∧
    Value.literalRoom < ((fields.lookup "chain").getD .null).calls) ∨
  ∃ r c i, s.Carries request r c i ∧ c.NestsDeep s.nesting i

/-- The failure is a refusal, or the request gives a reason for another one. -/
def MayFail (s : Signer) (request : RequestLike) (f : Failure) : Prop :=
  f.RefusesUnless (s.ReadsLong request) ∨ f = .nestedTooDeep ∧ s.NestsDeep request

theorem failsIn_checked {long : Prop} (v : Value) :
    FailsIn (Failure.RefusesUnless long) (checked v).result := by
  unfold checked
  split
  · exact failsIn_ok _
  · rw [Traced.result_bind]
    exact (failsIn_ok _).bind fun _ _ => failsIn_error (.inl rfl)

theorem failsIn_validate (s : Signer) (request : RequestLike) :
    FailsIn (s.MayFail request) (s.validate request).result := by
  match request with
  | .model r => exact failsIn_ok r
  | .value v =>
    by_cases hv : ∃ fields, v = .object fields
    · obtain ⟨fields, rfl⟩ := hv
      rw [validate_object, Traced.result_bind]
      have hfind := s.codecs.failsIn_find ((fields.lookup "chain").getD .null)
      refine FailsIn.bind (hfind.imp fun f hf => ?_) fun _ _ => (failsIn_checked _).imp fun _ => .inl
      rcases hf with hrefusal | ⟨hdigits, hlong⟩ | ⟨hfailure, hdeep⟩
      · exact .inl (.inl hrefusal)
      · exact .inl (.inr ⟨hdigits, .inl ⟨fields, rfl, hlong⟩⟩)
      · exact .inr ⟨hfailure, .inl ⟨fields, rfl, hdeep⟩⟩
    · rw [validate_of_ne s fun fields h => hv ⟨fields, h⟩]
      exact (failsIn_checked v).imp fun _ => .inl

/-- The accounts in memory give a path to every sender on a built-in chain, or refuse. -/
theorem failsIn_accountPath {t : ChainTable} {c : Codec} {long : Prop} (ht : t.IsReached)
    (hc : c.IsBuiltIn) (a : Accounts) (r : Request) (curve : Curve) (sender : Option String) :
    FailsIn (Failure.RefusesUnless long) (accountPath (a.provider t) r c.chain curve sender) := by
  unfold accountPath
  split
  · exact failsIn_ok _
  · refine FailsIn.map ?_
    unfold Accounts.accountPath
    dsimp only
    rw [hc.normal_chain]
    split
    · exact failsIn_ok _
    · split
      · exact failsIn_error (.inl rfl)
      · intro f hf
        have hcode := ChainTable.code_of_defaultPath (ht.serves hc.chain_eq) hc.ofValue_chain hf
        exact .inl (Failure.isRefusal_of_code hcode)

/-- Planning on the built-in chains fails in a refusal, unless a number of too many digits is read
or type tags are nested too deep. -/
theorem IsBuiltIn.failsIn_plan {t : ChainTable} (hs : s.IsBuiltIn) (ht : t.IsReached) (a : Accounts)
    (hsize : ¬ s.IsVast request) :
    FailsIn (s.MayFail request) (s.plan (a.provider t) request).result := by
  have hrefused {α : Type} {x : Except Failure α}
      (hx : FailsIn (Failure.RefusesUnless (s.ReadsLong request)) x) :
      FailsIn (s.MayFail request) x := hx.imp fun _ => .inl
  rw [result_plan]
  refine (failsIn_validate s request).bind fun r hvalid => ?_
  refine (hrefused (s.codecs.failsIn_find_text r.chain)).bind fun c hfound => ?_
  have hc := hs.isBuiltIn_of_find hfound
  have hcurve : FailsIn (s.MayFail request)
      (s.chains.curveFor (.text c.chain) (.ofName? r.curve)) := by
    intro f hf
    have hserves := hs.chains.serves hc.chain_eq
    have hcode := ChainTable.code_of_findCurve hserves hc.ofValue_chain hf
    exact .inl (.inl (Failure.isRefusal_of_code hcode))
  refine hcurve.bind fun curve _ => ?_
  have hunsigned : FailsIn (s.MayFail request) (unsigned s.nesting c r).result := by
    rw [result_unsigned]
    refine (hrefused (Codec.failsIn_inputOf _)).bind fun i hinput => ?_
    have hcarries : s.Carries request r c i := ⟨hvalid, hfound, hinput⟩
    have hprepare := hc.failsIn_prepare s.nesting (i := i) fun h => hsize ⟨r, c, i, hcarries, h⟩
    refine FailsIn.bind (hprepare.imp fun f hf => ?_) fun u _ => failsIn_ok _
    rcases hf with (hrefusal | ⟨hdigits, hlong⟩) | ⟨hdeep, hnests⟩
    · exact .inl (.inl hrefusal)
    · exact .inl (.inr ⟨hdigits, .inr (.inl ⟨r, c, i, hcarries, hlong⟩)⟩)
    · exact .inr ⟨hdeep, .inr ⟨r, c, i, hcarries, hnests⟩⟩
  refine hunsigned.bind fun u _ => ?_
  refine (hrefused (failsIn_accountPath ht hc a r curve u.sender)).bind fun path _ => ?_
  exact (failsIn_ok a.seed).bind fun seed _ => failsIn_ok _

/-! ## Signing -/

theorem IsBuiltIn.failsIn_sign {t : ChainTable} (hs : s.IsBuiltIn) (ht : t.IsReached) (a : Accounts)
    (hsize : ¬ s.IsVast request) :
    FailsIn (s.MayFail request) (s.sign (a.provider t) request).result := by
  rw [sign_eq, Traced.result_bind]
  refine (hs.failsIn_plan ht a hsize).bind fun p hp => ?_
  obtain ⟨r, i, u, hcarries, -⟩ := plan_eq_ok_iff.1 hp
  have hperform := hs.failsIn_perform (hs.isBuiltIn_of_find hcarries.found)
  refine hperform.imp fun f hf => .inl ?_
  rcases hf with hkey | ⟨sender, hlate, hparse⟩
  · exact .inl hkey.isRefusal
  · obtain ⟨r, raw, -, hhash, -⟩ := signsHash_of_lateSender? hp hlate
    have hlong : Starknet.Felt.IsLong sender → s.ReadsLong request :=
      fun h => .inr (.inr ⟨r, raw, sender, hhash, h⟩)
    exact Starknet.Felt.failsIn_parse hlong f hparse

/-- Signing on the built-in chains gives an output or a refusal. There are three exceptions: a number
of too many digits is read, a tag or type tags are nested too deep, or a multicall is as long as the
field is large. -/
theorem IsBuiltIn.signs_or_refuses {t : ChainTable} (hs : s.IsBuiltIn) (ht : t.IsReached)
    (a : Accounts) (request : RequestLike) :
    (∃ o, (s.sign (a.provider t) request).result = .ok o) ∨
      ∃ f, (s.sign (a.provider t) request).result = .error f ∧
        (f.isRefusal = true ∨ f = .tooManyDigits ∧ s.ReadsLong request ∨
          f = .nestedTooDeep ∧ s.NestsDeep request ∨ s.IsVast request) := by
  cases hresult : (s.sign (a.provider t) request).result with
  | ok o => exact .inl ⟨o, rfl⟩
  | error f =>
    refine .inr ⟨f, rfl, ?_⟩
    by_cases hsize : s.IsVast request
    · exact .inr (.inr (.inr hsize))
    · rcases hs.failsIn_sign ht a hsize f hresult with (hrefusal | hdigits) | hdeep
      · exact .inl hrefusal
      · exact .inr (.inl hdigits)
      · exact .inr (.inr (.inl hdeep))

/-- Accounts without registrations, for a seed of one byte. -/
def someAccounts : Accounts := ⟨[1], false, []⟩

/-- A request to transfer on Sui at a price that has no room in its width. -/
def pricedRequest : RequestLike :=
  .value (.object [("chain", .text " sui "), ("curve", .text "ed25519"),
    ("sui", .object [("transfer", .object [("sui", .object [("amount", .int 1000)]),
      ("recipient", .text "0x2"), ("sender", .text "0x3"), ("gas_budget", .text "1_000"),
      ("gas_price", .int 18446744073709551616)])])])

theorem signs_or_refuses_pricedRequest : standard.IsBuiltIn ∧ ChainTable.standard.IsReached ∧
    ((∃ o, (standard.sign (someAccounts.provider .standard) pricedRequest).result = .ok o) ∨
      ∃ f, (standard.sign (someAccounts.provider .standard) pricedRequest).result = .error f ∧
        (f.isRefusal = true ∨ f = .tooManyDigits ∧ standard.ReadsLong pricedRequest ∨
          f = .nestedTooDeep ∧ standard.NestsDeep pricedRequest ∨
          standard.IsVast pricedRequest)) :=
  ⟨isBuiltIn_standard, .standard,
    isBuiltIn_standard.signs_or_refuses .standard someAccounts pricedRequest⟩

/-- A transfer whose amount has 4301 digits. -/
def longTransfer : Starknet.Transfer where
  sender := "0x1"
  nonce := 1
  recipient := "0x2"
  amount := String.ofList (List.replicate 4301 '1')
  maxFee := "0x3"
  chainId := "SN_MAIN"

/-- A request for the transfer. -/
def longRequest : RequestLike :=
  .model ⟨"STARKNET", none, some ⟨none, some longTransfer⟩, none, none, none, []⟩

/-- Signing the transfer ends in a failure that is no refusal. -/
theorem not_refusal_of_longRequest :
    (standard.sign (someAccounts.provider .standard) longRequest).result = .error .tooManyDigits ∧
      Failure.tooManyDigits.isRefusal = false := by
  refine ⟨?_, rfl⟩
  have hamount : Starknet.Felt.IsLong longTransfer.amount := by
    refine Starknet.Felt.isLong_of_isDigit (fun c hc => ?_) ?_
    · rw [List.eq_of_mem_replicate hc]
      rfl
    · rw [List.length_replicate]
      decide
  have hsender : Starknet.Felt.parse "sender" longTransfer.sender = .ok 1 := rfl
  have hrecipient : Starknet.Felt.parse "to" longTransfer.recipient = .ok 2 := rfl
  have hprepare := Starknet.prepareTransfer_of_isLong hsender hrecipient hamount
  have hunsigned : (unsigned .standard .starknet
      ⟨"STARKNET", none, some ⟨none, some longTransfer⟩, none, none, none, []⟩).result =
      .error .tooManyDigits := by
    rw [result_unsigned]
    exact (bind_of_eq_ok rfl _).trans (bind_of_eq_error hprepare _)
  have hfound : standard.codecs.find (.text "STARKNET") = .ok .starknet := rfl
  have hcurve : standard.chains.curveFor (.text "STARKNET") .unspecified = .ok .stark := rfl
  rw [sign_eq, Traced.result_bind, result_plan]
  refine bind_of_eq_error ?_ _
  refine (bind_of_eq_ok rfl _).trans ((bind_of_eq_ok hfound _).trans ?_)
  exact (bind_of_eq_ok hcurve _).trans (bind_of_eq_error hunsigned _)

end Signer

end Signatory
