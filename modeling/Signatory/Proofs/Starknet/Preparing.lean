import Signatory.Proofs.Journal
import Signatory.Proofs.Refusal
import Signatory.Proofs.Starknet.Binding
import Signatory.Proofs.Starknet.FeltText
import Signatory.Starknet.Signing

/-!
# Preparing Starknet transactions

1. A transaction that is made of a request has numbers of the field only (`Transfer.isInField`,
   `Multicall.isInField`), so it has an unsigned transaction (`IsInField.exists_unsigned`) unless
   its layout is as long as the field is large. `Invoke.unsignedBy` leaves the hash of lists open.
2. `failsIn_prepareTransfer` and `failsIn_prepareRaw`: a request is refused, unless one of its
   numerals has too many digits.
-/

namespace Signatory.Starknet

open Outcome

/-! ## Numbers of the field -/

/-- A transaction whose numbers are all field elements. -/
structure Invoke.IsInField (tx : Invoke) : Prop where
  calls : ∀ c ∈ tx.calls, ∀ n ∈ c.numbers, IsFelt n
  numbers : ∀ n ∈ tx.numbers, IsFelt n

/-- The layout of such a transaction holds field elements only, unless there are as many calls and
data as field elements. -/
theorem Invoke.IsInField.isFelt_calldata {tx : Invoke} (h : tx.IsInField)
    (hsize : size tx.calls < fieldPrime) : ∀ n ∈ calldata tx.calls, IsFelt n :=
  forall_calldata h.calls fun _ hn => isFelt_natCast.2 (Nat.lt_of_le_of_lt hn hsize)

/-- The unsigned transaction over a hash of lists. -/
def Invoke.unsignedBy (hashList : List Int → Except Failure Nat) (tx : Invoke) (maxFee : String)
    (nonce : Int) (sender : String) : Except Failure (Unsigned Output) := do
  let hash ← tx.hashBy hashList
  let contractAddress ← Felt.format tx.sender
  let calldata ← (calldata tx.calls).mapM Felt.format
  pure
    { payload := .ofMessage (Bytes.beBytes 32 hash)
      body := { contractAddress, calldata, signature := "", maxFee, nonce := Text.signed nonce }
      sender := some sender }

theorem Invoke.unsigned_eq_unsignedBy (tx : Invoke) (maxFee : String) (nonce : Int)
    (sender : String) :
    tx.unsigned maxFee nonce sender = tx.unsignedBy hashElements maxFee nonce sender := rfl

/-- Such a transaction is prepared if it has a hash. -/
theorem Invoke.IsInField.exists_unsignedBy {tx : Invoke} (h : tx.IsInField)
    (hsize : size tx.calls < fieldPrime) {hashList : List Int → Except Failure Nat} {hash : Nat}
    (hhash : tx.hashBy hashList = .ok hash) (maxFee : String) (nonce : Int) (sender : String) :
    ∃ u, tx.unsignedBy hashList maxFee nonce sender = .ok u ∧
      u.payload.message = Bytes.beBytes 32 hash := by
  have hsender : IsFelt tx.sender := h.numbers _ List.mem_cons_self
  have htexts := mapM_eq_ok fun n hn => Felt.format_eq (h.isFelt_calldata hsize n hn)
  unfold unsignedBy
  rw [hhash, Felt.format_eq hsender, htexts]
  exact ⟨_, rfl, rfl⟩

/-- It has a hash, and is prepared, unless its layout is as long as the field is large. -/
theorem Invoke.IsInField.exists_hash_unsigned {tx : Invoke} (h : tx.IsInField)
    (hlength : (calldata tx.calls).length < fieldPrime) (maxFee : String) (nonce : Int)
    (sender : String) : ∃ hash u, tx.hash = .ok hash ∧ tx.unsigned maxFee nonce sender = .ok u ∧
      u.payload.message = Bytes.beBytes 32 hash := by
  have hsize := Nat.lt_of_le_of_lt (size_le_length_calldata _) hlength
  obtain ⟨hash, hhash⟩ := exists_hash (h.isFelt_calldata hsize) hlength h.numbers
  obtain ⟨u, hu, hmessage⟩ :=
    h.exists_unsignedBy hsize ((hash_eq_hashBy tx).symm.trans hhash) maxFee nonce sender
  exact ⟨hash, u, hhash, (unsigned_eq_unsignedBy tx maxFee nonce sender).trans hu, hmessage⟩

theorem Invoke.IsInField.exists_unsigned {tx : Invoke} (h : tx.IsInField)
    (hlength : (calldata tx.calls).length < fieldPrime) (maxFee : String) (nonce : Int)
    (sender : String) : ∃ u, tx.unsigned maxFee nonce sender = .ok u := by
  obtain ⟨-, u, -, hu, -⟩ := h.exists_hash_unsigned hlength maxFee nonce sender
  exact ⟨u, hu⟩

theorem chainId_lt {s : String} {n : Nat} (h : chainId s = .ok n) : n < fieldPrime := by
  have hnetworks : ∀ name ∈ networks, shortText name < fieldPrime := by
    simp only [networks, List.forall_mem_cons]
    decide
  unfold chainId at h
  dsimp only at h
  split at h
  · rename_i hname
    obtain rfl := Except.ok.inj h
    exact hnetworks _ (List.contains_iff_mem.1 hname)
  · exact Felt.lt_of_parse h

theorem natCast_of_checkNonce {nonce : Int} {n : Nat} (h : checkNonce nonce = .ok n) :
    (n : Int) = nonce ∧ n < Bytes.capacity 8 := by
  unfold checkNonce at h
  split at h
  · cases h
  · split at h
    · cases h
      omega
    · cases h

/-! ## Requests as transactions -/

theorem isFelt_natCast_of_parse {field s : String} {n : Nat} (h : Felt.parse field s = .ok n) :
    IsFelt n :=
  isFelt_natCast.2 (Felt.lt_of_parse h)

theorem shortKeccak_lt (s : String) : shortKeccak s < fieldPrime := by
  have hbound : 1 <<< 250 ≤ fieldPrime := by
    decide
  have hpos : 0 < 1 <<< 250 := by
    decide
  exact Nat.lt_of_lt_of_le (Nat.mod_lt _ hpos) hbound

theorem isFelt_of_checkNonce {nonce : Int} {n : Nat} (h : checkNonce nonce = .ok n) :
    IsFelt n := by
  have hprime := capacity_le_fieldPrime
  exact isFelt_natCast.2 (Nat.lt_of_lt_of_le (natCast_of_checkNonce h).2 hprime)

/-- What a transfer is made into. -/
theorem Transfer.toInvoke_eq_ok_iff {t : Transfer} {tx : Invoke} : t.toInvoke = .ok tx ↔
    ∃ sender recipient amount fee chain nonce : Nat,
      Felt.parse "sender" t.sender = .ok sender ∧ Felt.parse "to" t.recipient = .ok recipient ∧
      Felt.parse "amount" t.amount = .ok amount ∧ Felt.parse "max_fee" t.maxFee = .ok fee ∧
      Starknet.chainId t.chainId = .ok chain ∧ checkNonce t.nonce = .ok nonce ∧
      tx = ⟨sender, [⟨tokenAddress, transferSelector, [(recipient : Int), (amount : Int)]⟩], fee,
        nonce, chain⟩ := by
  constructor
  · intro h
    obtain ⟨sender, hsender, h⟩ := bind_eq_ok_iff.1 h
    obtain ⟨recipient, hrecipient, h⟩ := bind_eq_ok_iff.1 h
    obtain ⟨amount, hamount, h⟩ := bind_eq_ok_iff.1 h
    obtain ⟨fee, hfee, h⟩ := bind_eq_ok_iff.1 h
    obtain ⟨chain, hchain, h⟩ := bind_eq_ok_iff.1 h
    obtain ⟨nonce, hnonce, h⟩ := bind_eq_ok_iff.1 h
    exact ⟨sender, recipient, amount, fee, chain, nonce, hsender, hrecipient, hamount, hfee, hchain,
      hnonce, (Except.ok.inj h).symm⟩
  · rintro ⟨sender, recipient, amount, fee, chain, nonce, hsender, hrecipient, hamount, hfee,
      hchain, hnonce, rfl⟩
    unfold toInvoke
    rw [hsender, hrecipient, hamount, hfee, hchain, hnonce]
    rfl

/-- What a multicall is made into. -/
theorem Multicall.toInvoke_eq_ok_iff {m : Multicall} {tx : Invoke} : m.toInvoke = .ok tx ↔
    m.calls ≠ [] ∧ ∃ (sender fee chain nonce : Nat) (calls : List Call),
      Felt.parse "sender" m.sender = .ok sender ∧ m.calls.mapM CallText.toCall = .ok calls ∧
      Felt.parse "max_fee" m.maxFee = .ok fee ∧ checkNonce m.nonce = .ok nonce ∧
      Starknet.chainId m.chainId = .ok chain ∧ tx = ⟨sender, calls, fee, nonce, chain⟩ := by
  constructor
  · intro h
    unfold toInvoke at h
    split at h
    · cases h
    · rename_i hcalls
      obtain ⟨sender, hsender, h⟩ := bind_eq_ok_iff.1 h
      obtain ⟨calls, hmap, h⟩ := bind_eq_ok_iff.1 h
      obtain ⟨fee, hfee, h⟩ := bind_eq_ok_iff.1 h
      obtain ⟨nonce, hnonce, h⟩ := bind_eq_ok_iff.1 h
      obtain ⟨chain, hchain, h⟩ := bind_eq_ok_iff.1 h
      exact ⟨fun hnil => hcalls (List.isEmpty_iff.2 hnil), sender, fee, chain, nonce, calls,
        hsender, hmap, hfee, hnonce, hchain, (Except.ok.inj h).symm⟩
  · rintro ⟨hne, sender, fee, chain, nonce, calls, hsender, hcalls, hfee, hnonce, hchain, rfl⟩
    unfold toInvoke
    rw [List.isEmpty_eq_false_iff.2 hne, hsender, hcalls, hfee, hnonce, hchain]
    rfl

theorem Transfer.isInField {t : Transfer} {tx : Invoke} (h : t.toInvoke = .ok tx) :
    tx.IsInField := by
  obtain ⟨sender, recipient, amount, fee, chain, nonce, hsender, hrecipient, hamount, hfee, hchain,
    hnonce, rfl⟩ := toInvoke_eq_ok_iff.1 h
  constructor
  · have htoken : IsFelt tokenAddress := by
      decide
    have hselector : IsFelt transferSelector := isFelt_natCast.2 (shortKeccak_lt _)
    simp only [List.forall_mem_singleton, Call.numbers, List.forall_mem_cons]
    exact ⟨htoken, hselector, isFelt_natCast_of_parse hrecipient, isFelt_natCast_of_parse hamount⟩
  · simp only [Invoke.numbers, List.forall_mem_cons]
    exact ⟨isFelt_natCast_of_parse hsender, isFelt_natCast_of_parse hfee,
      isFelt_natCast.2 (chainId_lt hchain), isFelt_of_checkNonce hnonce, List.forall_mem_nil _⟩

/-- The layout of a transfer is short. -/
theorem Transfer.length_lt {t : Transfer} {tx : Invoke} (h : t.toInvoke = .ok tx) :
    (calldata tx.calls).length < fieldPrime := by
  obtain ⟨-, -, -, -, -, -, -, -, -, -, -, -, rfl⟩ := toInvoke_eq_ok_iff.1 h
  rw [length_calldata]
  simp only [List.flatMap_cons, List.flatMap_nil, List.append_nil, List.length_cons,
    List.length_nil]
  decide

theorem CallText.isFelt_of_toCall {c : CallText} {call : Call} (h : c.toCall = .ok call) :
    ∀ n ∈ call.numbers, IsFelt n := by
  obtain ⟨target, htarget, h⟩ := bind_eq_ok_iff.1 h
  obtain ⟨selector, hselector, h⟩ := bind_eq_ok_iff.1 h
  obtain ⟨data, hdata, h⟩ := bind_eq_ok_iff.1 h
  obtain rfl := Except.ok.inj h
  simp only [Call.numbers, List.forall_mem_cons]
  refine ⟨isFelt_natCast_of_parse htarget, isFelt_natCast_of_parse hselector, fun n hn => ?_⟩
  obtain ⟨m, hm, rfl⟩ := List.mem_map.1 hn
  obtain ⟨s, hs⟩ := exists_of_mapM_eq_ok hdata m hm
  exact isFelt_natCast_of_parse hs

theorem Multicall.isInField {m : Multicall} {tx : Invoke} (h : m.toInvoke = .ok tx) :
    tx.IsInField := by
  obtain ⟨-, sender, fee, chain, nonce, calls, hsender, hcalls, hfee, hnonce, hchain, rfl⟩ :=
    toInvoke_eq_ok_iff.1 h
  constructor
  · intro call hcall
    obtain ⟨c, hc⟩ := exists_of_mapM_eq_ok hcalls call hcall
    exact CallText.isFelt_of_toCall hc
  · simp only [Invoke.numbers, List.forall_mem_cons]
    exact ⟨isFelt_natCast_of_parse hsender, isFelt_natCast_of_parse hfee,
      isFelt_natCast.2 (chainId_lt hchain), isFelt_of_checkNonce hnonce, List.forall_mem_nil _⟩

/-! ## Refusals -/

/-- One of the texts is a numeral of too many digits. -/
def HaveLong (texts : List String) : Prop :=
  ∃ s ∈ texts, Felt.IsLong s

/-- The texts that a transfer's numbers are read from. -/
def Transfer.numerals (t : Transfer) : List String :=
  [t.sender, t.recipient, t.amount, t.maxFee, t.chainId]

def CallText.numerals (c : CallText) : List String :=
  c.target :: c.selector :: c.calldata

/-- The texts that a multicall's numbers are read from. -/
def Multicall.numerals (m : Multicall) : List String :=
  m.sender :: m.maxFee :: m.chainId :: m.calls.flatMap CallText.numerals

theorem failsIn_chainId {long : Prop} {s : String} (hlong : Felt.IsLong s → long) :
    FailsIn (Failure.RefusesUnless long) (chainId s) := by
  unfold chainId
  dsimp only
  split
  · exact failsIn_ok _
  · exact Felt.failsIn_parse hlong

theorem failsIn_checkNonce {long : Prop} (nonce : Int) :
    FailsIn (Failure.RefusesUnless long) (checkNonce nonce) := by
  unfold checkNonce
  split
  · exact failsIn_error (.inl rfl)
  · split
    · exact failsIn_ok _
    · exact failsIn_error (.inl rfl)

theorem Transfer.failsIn_toInvoke (t : Transfer) :
    FailsIn (Failure.RefusesUnless (HaveLong t.numerals)) t.toInvoke := by
  have hlong : ∀ s ∈ t.numerals, Felt.IsLong s → HaveLong t.numerals := fun s hs h => ⟨s, hs, h⟩
  unfold numerals at hlong
  simp only [List.forall_mem_cons] at hlong
  obtain ⟨hsender, hrecipient, hamount, hfee, hchain, -⟩ := hlong
  unfold toInvoke
  refine (Felt.failsIn_parse hsender).bind fun sender _ => ?_
  refine (Felt.failsIn_parse hrecipient).bind fun recipient _ => ?_
  refine (Felt.failsIn_parse hamount).bind fun amount _ => ?_
  refine (Felt.failsIn_parse hfee).bind fun fee _ => ?_
  refine (failsIn_chainId hchain).bind fun chain _ => ?_
  exact (failsIn_checkNonce _).bind fun nonce _ => failsIn_ok _

theorem CallText.failsIn_toCall {c : CallText} {long : Prop} (hlong : HaveLong c.numerals → long) :
    FailsIn (Failure.RefusesUnless long) c.toCall := by
  have hparse : ∀ field, ∀ s ∈ c.numerals,
      FailsIn (Failure.RefusesUnless long) (Felt.parse field s) :=
    fun field s hs => Felt.failsIn_parse fun h => hlong ⟨s, hs, h⟩
  unfold numerals at hparse
  simp only [List.forall_mem_cons] at hparse
  unfold toCall
  refine (hparse "to").1.bind fun target _ => ?_
  refine (hparse "selector").2.1.bind fun selector _ => ?_
  exact (FailsIn.mapM (hparse "call_data").2.2).bind fun data _ => failsIn_ok _

theorem Multicall.failsIn_toInvoke (m : Multicall) :
    FailsIn (Failure.RefusesUnless (HaveLong m.numerals)) m.toInvoke := by
  have hlong : ∀ s ∈ m.numerals, Felt.IsLong s → HaveLong m.numerals := fun s hs h => ⟨s, hs, h⟩
  unfold numerals at hlong
  simp only [List.forall_mem_cons] at hlong
  obtain ⟨hsender, hfee, hchain, hcalls⟩ := hlong
  unfold toInvoke
  split
  · exact failsIn_error (.inl rfl)
  · refine (Felt.failsIn_parse hsender).bind fun sender _ => ?_
    refine FailsIn.bind (FailsIn.mapM fun c hc => CallText.failsIn_toCall ?_) fun calls _ => ?_
    · rintro ⟨s, hs, h⟩
      exact hcalls s (List.mem_flatMap.2 ⟨c, hc, hs⟩) h
    refine (Felt.failsIn_parse hfee).bind fun fee _ => ?_
    refine (failsIn_checkNonce _).bind fun nonce _ => ?_
    exact (failsIn_chainId hchain).bind fun chain _ => failsIn_ok _

theorem Multicall.failsIn_ofJson {long : Prop} (s : String) :
    FailsIn (Failure.RefusesUnless long) (ofJson s) := by
  unfold ofJson
  split
  · exact failsIn_error (.inl rfl)
  · rename_i hcases
    intro f hf
    obtain ⟨issues, rfl⟩ := Model.readJson_eq_error hf
    exact absurd hf (hcases issues)

/-! ## Preparing -/

/-- Whether a raw transaction is meant as JSON. -/
def IsObjectText (raw : String) : Prop :=
  (Text.trim Text.isBlank raw.toList).head? = some '\x7b'

theorem result_prepareInvoke (tx : Invoke) (maxFee : String) (nonce : Int) (sender : String) :
    (prepareInvoke tx maxFee nonce sender).result = tx.unsigned maxFee nonce sender := by
  unfold prepareInvoke
  rw [Traced.result_bind]
  rfl

theorem result_prepareTransfer (t : Transfer) : (prepareTransfer t).result =
    t.toInvoke >>= fun tx => tx.unsigned t.maxFee t.nonce t.sender := by
  unfold prepareTransfer
  simp only [Traced.result_bind, Traced.result_liftM, result_prepareInvoke]

theorem result_prepareRaw_object {raw : String} (h : IsObjectText raw) :
    (prepareRaw raw).result = Multicall.ofJson (Text.strip raw) >>= fun m =>
      m.toInvoke >>= fun tx => tx.unsigned m.maxFee m.nonce m.sender := by
  unfold IsObjectText at h
  unfold prepareRaw Text.strip
  dsimp only
  rw [if_pos h]
  simp only [Traced.result_bind, Traced.result_liftM, result_prepareInvoke]

theorem result_prepareRaw_hash {raw : String} (h : ¬ IsObjectText raw) :
    (prepareRaw raw).result = hashMessage (Text.trim Text.isBlank raw.toList) >>= fun message =>
      .ok ⟨.ofMessage message, .blank, none⟩ := by
  unfold IsObjectText at h
  unfold prepareRaw
  dsimp only
  rw [if_neg h]
  simp only [Traced.result_bind, Traced.result_liftM, Traced.result_pure]

theorem isQuiet_prepareInvoke (tx : Invoke) (maxFee : String) (nonce : Int) (sender : String) :
    (prepareInvoke tx maxFee nonce sender).IsQuiet :=
  (Traced.isQuiet_debug _ _).bind fun _ => Traced.isQuiet_liftM _

theorem isQuiet_prepareTransfer (t : Transfer) : (prepareTransfer t).IsQuiet :=
  (Traced.isQuiet_liftM _).bind fun _ => isQuiet_prepareInvoke _ _ _ _

theorem isQuiet_prepareRaw (raw : String) : (prepareRaw raw).IsQuiet := by
  unfold prepareRaw
  dsimp only
  split
  · refine (Traced.isQuiet_liftM _).bind fun m => (Traced.isQuiet_liftM _).bind fun tx => ?_
    exact isQuiet_prepareInvoke _ _ _ _
  · exact (Traced.isQuiet_liftM _).bind fun message => Traced.isQuiet_pure _

/-- The contract address of a transaction that is hashed is known. -/
theorem Invoke.address_of_unsigned {tx : Invoke} {maxFee sender : String} {nonce : Int}
    {u : Unsigned Output} (h : tx.unsigned maxFee nonce sender = .ok u) :
    u.body.contractAddress.isEmpty = false := by
  obtain ⟨hash, -, h⟩ := bind_eq_ok_iff.1 h
  obtain ⟨address, haddress, h⟩ := bind_eq_ok_iff.1 h
  obtain ⟨texts, -, h⟩ := bind_eq_ok_iff.1 h
  obtain rfl := Except.ok.inj h
  exact Felt.isEmpty_of_format haddress

theorem Invoke.IsInField.failsIn_unsigned {tx : Invoke} {P : Failure → Prop} (h : tx.IsInField)
    (hlength : (calldata tx.calls).length < fieldPrime) (maxFee : String) (nonce : Int)
    (sender : String) : FailsIn P (tx.unsigned maxFee nonce sender) := by
  obtain ⟨u, hu⟩ := h.exists_unsigned hlength maxFee nonce sender
  exact failsIn_of_eq_ok hu

theorem failsIn_prepareTransfer (t : Transfer) :
    FailsIn (Failure.RefusesUnless (HaveLong t.numerals)) (prepareTransfer t).result := by
  rw [result_prepareTransfer]
  refine t.failsIn_toInvoke.bind fun tx htx => ?_
  exact (Transfer.isInField htx).failsIn_unsigned (Transfer.length_lt htx) _ _ _

/-- An amount of too many digits is not refused: it ends in a failure of another kind. -/
theorem prepareTransfer_of_isLong {t : Transfer} {sender recipient : Nat}
    (hsender : Felt.parse "sender" t.sender = .ok sender)
    (hrecipient : Felt.parse "to" t.recipient = .ok recipient) (hamount : Felt.IsLong t.amount) :
    (prepareTransfer t).result = .error .tooManyDigits := by
  rw [result_prepareTransfer]
  refine bind_of_eq_error ?_ _
  unfold Transfer.toInvoke
  rw [bind_of_eq_ok hsender, bind_of_eq_ok hrecipient]
  exact bind_of_eq_error (Felt.parse_of_isLong hamount) _

theorem failsIn_hashMessage {long : Prop} (cs : List Char) :
    FailsIn (Failure.RefusesUnless long) (hashMessage cs) := by
  unfold hashMessage
  dsimp only
  generalize (if Text.hasHexMark cs = true then cs.drop 2 else cs) = ds
  split
  · exact failsIn_error (.inl rfl)
  · generalize (Text.Hex.decode? _).getD [] = bytes
    split
    · exact failsIn_error (.inl rfl)
    · exact failsIn_ok _

/-- The multicall in a raw transaction. -/
def IsMulticall (raw : String) (m : Multicall) : Prop :=
  IsObjectText raw ∧ Multicall.ofJson (Text.strip raw) = .ok m

/-- A layout as long as the field is large, which has no hash. -/
def Multicall.IsVast (m : Multicall) : Prop :=
  ∃ tx, m.toInvoke = .ok tx ∧ fieldPrime ≤ (calldata tx.calls).length

theorem failsIn_prepareRaw {raw : String} (hsize : ∀ m, IsMulticall raw m → ¬ m.IsVast) :
    FailsIn (Failure.RefusesUnless (∃ m, IsMulticall raw m ∧ HaveLong m.numerals))
      (prepareRaw raw).result := by
  by_cases hraw : IsObjectText raw
  · rw [result_prepareRaw_object hraw]
    refine (Multicall.failsIn_ofJson _).bind fun m hm => ?_
    have hlong : HaveLong m.numerals → ∃ m, IsMulticall raw m ∧ HaveLong m.numerals :=
      fun h => ⟨m, ⟨hraw, hm⟩, h⟩
    refine (m.failsIn_toInvoke.weaken hlong).bind fun tx htx => ?_
    refine (Multicall.isInField htx).failsIn_unsigned (Nat.lt_of_not_le fun hvast => ?_) _ _ _
    exact hsize m ⟨hraw, hm⟩ ⟨tx, htx, hvast⟩
  · rw [result_prepareRaw_hash hraw]
    exact (failsIn_hashMessage _).bind fun message _ => failsIn_ok _

end Signatory.Starknet
